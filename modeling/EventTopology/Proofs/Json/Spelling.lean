import EventTopology.Json.Reader
import EventTopology.Json.Writer
import Mathlib.Data.List.Forall2
import Mathlib.Data.Nat.Digits.Defs

/-
  This file says how texts and tokens may be spelled, apart
  from any scanner, and shows that the scanner finds what is
  spelled.  A character stands for itself or is escaped in
  any of the ways there are, and blanks may stand between
  tokens.

  Key definitions include:
    * `Json.SpellsChar`
    * `Json.SpellsText`
    * `Json.Token.Spells`
    * `Json.Spelled`

  The main results are:
    * `Json.scanText_of_spells`
    * `Json.scan_of_spelled`
    * `Json.read?_of_spelled`
-/

------------------------------------------------------------
-- Spelled Characters
------------------------------------------------------------

namespace EventTopology

namespace Json

/- The digits of base sixteen, in both cases. -/
def hexTable : List (Char × Nat) :=
  "0123456789abcdef".toList.zipIdx ++
    "ABCDEF".toList.zipIdx 10

/- The letters that stand for characters in escapes. -/
def letterTable : List (Char × Char) :=
  [('"', '"'), ('\\', '\\'), ('/', '/'), ('b', '\x08'),
   ('f', '\x0c'), ('n', '\n'), ('r', '\r'), ('t', '\t')]

/- Four digits of base sixteen spell a number. -/
inductive SpellsCode : Nat → List Char → Prop
| digits
    {c₃ c₂ c₁ c₀ : Char}
    {v₃ v₂ v₁ v₀ : Nat} :
    (c₃, v₃) ∈ hexTable →
    (c₂, v₂) ∈ hexTable →
    (c₁, v₁) ∈ hexTable →
    (c₀, v₀) ∈ hexTable →
    SpellsCode (Nat.ofDigits 16 [v₀, v₁, v₂, v₃])
      [c₃, c₂, c₁, c₀]

/-
  How a character may be spelled inside quotes.  One beyond
  the first plane has an escape of two halves.
-/
inductive SpellsChar (c : Char) : List Char → Prop
| literal :
    c ≠ '"' →
    c ≠ '\\' →
    0x20 ≤ c.toNat →
    SpellsChar c [c]
| letter
    {l : Char} :
    (l, c) ∈ letterTable →
    SpellsChar c ['\\', l]
| code
    {cs : List Char} :
    SpellsCode c.toNat cs →
    SpellsChar c ('\\' :: 'u' :: cs)
| halves
    {high low : Nat}
    {cs cs' : List Char} :
    high < 0x400 →
    low < 0x400 →
    c.toNat = 0x10000 + high * 0x400 + low →
    SpellsCode (0xD800 + high) cs →
    SpellsCode (0xDC00 + low) cs' →
    SpellsChar c
      ('\\' :: 'u' :: cs ++ '\\' :: 'u' :: cs')

/- A text is spelled character by character, in quotes. -/
def SpellsText (s : String) (cs : List Char) : Prop :=
  ∃ parts,
    List.Forall₂ SpellsChar s.toList parts ∧
    cs = '"' :: (parts.flatten ++ ['"'])

end Json

------------------------------------------------------------
-- Written Texts
------------------------------------------------------------

namespace Json

/- Control characters have codes of two zeros and digits. -/
theorem spellsCode_hexDigits
    {n : Nat}
    (hControl : n < 0x20) :
    SpellsCode n (Text.hexDigits 4 n) := by
  have hDigits : ∀ n < 0x20,
      Text.hexDigits 4 n =
        ['0', '0', (n / 16).digitChar, (n % 16).digitChar] := by
    decide
  have hTable : ∀ v < 16, (v.digitChar, v) ∈ hexTable := by
    decide
  have hZero : ('0', 0) ∈ hexTable := hTable 0 (by decide)
  have hValue :
      n = Nat.ofDigits 16 [n % 16, n / 16, 0, 0] := by
    simp only [Nat.ofDigits_cons, Nat.ofDigits_nil]
    omega
  rw [hDigits n hControl]
  nth_rewrite 1 [hValue]
  exact .digits hZero hZero
    (hTable (n / 16) (by omega))
    (hTable (n % 16) (by omega))

/- A written character is spelled. -/
theorem spellsChar_escapeText (c : Char) :
    SpellsChar c (escapeText c) := by
  unfold escapeText
  split
  case isTrue hMarked =>
    rcases hMarked with rfl | rfl <;>
      exact .letter (by decide)
  case isFalse hPlain =>
    rw [not_or] at hPlain
    split
    case isTrue hControl =>
      exact .code (spellsCode_hexDigits hControl)
    case isFalse hNot =>
      exact .literal hPlain.1 hPlain.2 (Nat.not_lt.mp hNot)

theorem spellsText_writeText (s : String) :
    SpellsText s (writeText s) := by
  refine ⟨s.toList.map escapeText, ?_, ?_⟩
  · rw [List.forall₂_map_right_iff, List.forall₂_same]
    exact fun c _ => spellsChar_escapeText c
  · rw [writeText, List.flatMap_def, List.cons_append]

end Json

------------------------------------------------------------
-- Scanning Spelled Texts
------------------------------------------------------------

namespace Json

variable {n : Nat}
variable {c : Char}
variable {cs acc rest : List Char}

theorem hexValue?_of_mem
    {v : Nat}
    (hMem : (c, v) ∈ hexTable) :
    hexValue? c = some v := by
  have hAll : ∀ e ∈ hexTable, hexValue? e.1 = some e.2 := by
    decide
  exact hAll (c, v) hMem

theorem shortEscape?_of_mem
    {l : Char}
    (hMem : (l, c) ∈ letterTable) :
    l ≠ 'u' ∧ shortEscape? l = some c := by
  have hAll : ∀ e ∈ letterTable,
      e.1 ≠ 'u' ∧ shortEscape? e.1 = some e.2 := by
    decide
  exact hAll (l, c) hMem

/- Four digits are scanned as the number that they spell. -/
theorem scanText_code
    (hCode : SpellsCode n cs)
    (high : Option Nat) :
    scanText (.hex high 4 0) acc (cs ++ rest) =
      match finishHex high n with
      | none => none
      | some (none, mode) => scanText mode acc rest
      | some (some ch, mode) =>
          scanText mode (ch :: acc) rest := by
  rcases hCode with ⟨h₃, h₂, h₁, h₀⟩
  rename_i v₃ v₂ v₁ v₀
  have hValue :
      16 * (16 * (16 * (16 * 0 + v₃) + v₂) + v₁) + v₀ =
        Nat.ofDigits 16 [v₀, v₁, v₂, v₃] := by
    simp only [Nat.ofDigits_cons, Nat.ofDigits_nil]
    omega
  simp only [List.cons_append, List.nil_append, scanText,
    hexValue?_of_mem h₃, hexValue?_of_mem h₂,
    hexValue?_of_mem h₁, hexValue?_of_mem h₀, hValue]
  rfl

/- No character is half of another one. -/
theorem finishHex_toNat (c : Char) :
    finishHex none c.toNat = some (some c, .plain) := by
  have hValid : c.toNat.isValidChar := c.valid
  have hHigh : isHighSurrogate c.toNat = false := by
    simp only [isHighSurrogate, Bool.and_eq_false_iff,
      decide_eq_false_iff_not]
    omega
  have hLow : isLowSurrogate c.toNat = false := by
    simp only [isLowSurrogate, Bool.and_eq_false_iff,
      decide_eq_false_iff_not]
    omega
  simp [finishHex, hHigh, hLow]

theorem finishHex_high
    {high : Nat}
    (hHigh : high < 0x400) :
    finishHex none (0xD800 + high) =
      some (none, .partner (0xD800 + high)) := by
  have hIs : isHighSurrogate (0xD800 + high) = true := by
    simp only [isHighSurrogate, Bool.and_eq_true,
      decide_eq_true_eq]
    omega
  simp [finishHex, hIs]

theorem finishHex_low
    {high low : Nat}
    (hLow : low < 0x400) :
    finishHex (some (0xD800 + high)) (0xDC00 + low) =
      some (some (Char.ofNat
        (0x10000 + high * 0x400 + low)), .plain) := by
  have hIs : isLowSurrogate (0xDC00 + low) = true := by
    simp only [isLowSurrogate, Bool.and_eq_true,
      decide_eq_true_eq]
    omega
  simp [finishHex, hIs]

/- A spelled character is scanned as it is meant. -/
theorem scanText_of_spells
    (hSpells : SpellsChar c cs) :
    scanText .plain acc (cs ++ rest) =
      scanText .plain (c :: acc) rest := by
  cases hSpells with
  | literal hQuote hMark hPlain =>
      simp [scanText, hQuote, hMark, Nat.not_lt.mpr hPlain]
  | @letter l hMem =>
      rcases shortEscape?_of_mem hMem with ⟨hNot, hEscape⟩
      simp [scanText, hNot, hEscape]
  | @code cs hCode =>
      change scanText (.hex none 4 0) acc (cs ++ rest) = _
      rw [scanText_code hCode, finishHex_toNat]
  | @halves high low cs cs' hHigh hLow hNumber hCode hCode' =>
      rw [List.append_assoc]
      change scanText (.hex none 4 0) acc
        (cs ++ ('\\' :: 'u' :: cs' ++ rest)) = _
      rw [scanText_code hCode, finishHex_high hHigh]
      change scanText (.hex (some (0xD800 + high)) 4 0) acc
        (cs' ++ rest) = _
      rw [scanText_code hCode', finishHex_low hLow,
        ← hNumber, Char.ofNat_toNat]

/- So is a text, up to its closing quote. -/
theorem scanText_parts
    {s : List Char}
    {parts : List (List Char)}
    (hParts : List.Forall₂ SpellsChar s parts) :
    scanText .plain acc (parts.flatten ++ '"' :: rest) =
      some (acc.reverse ++ s, rest) := by
  induction hParts generalizing acc with
  | nil => simp [scanText]
  | cons hChar _ ih =>
      rw [List.flatten_cons, List.append_assoc,
        scanText_of_spells hChar, ih]
      simp

end Json

------------------------------------------------------------
-- Spelled Tokens
------------------------------------------------------------

namespace Json

/- How the marks and texts of a JSON text are spelled. -/
inductive Token.Spells : Token → List Char → Prop
| openArray : Spells .openArray ['[']
| closeArray : Spells .closeArray [']']
| openObject : Spells .openObject ['\x7b']
| closeObject : Spells .closeObject ['\x7d']
| comma : Spells .comma [',']
| colon : Spells .colon [':']
| text
    {s : String}
    {cs : List Char} :
    SpellsText s cs →
    Spells (.text s) cs

/- Nothing but blanks. -/
def Blanks (cs : List Char) : Prop :=
  ∀ c ∈ cs, c ∈ [' ', '\t', '\n', '\r']

instance (cs : List Char) : Decidable (Blanks cs) :=
  List.decidableBAll (· ∈ [' ', '\t', '\n', '\r']) cs

/- Tokens are spelled in order, with blanks around them. -/
inductive Spelled : List Token → List Char → Prop
| nil
    {blanks : List Char} :
    Blanks blanks →
    Spelled [] blanks
| cons
    {t : Token}
    {ts : List Token}
    {blanks cs rest : List Char} :
    Blanks blanks →
    t.Spells cs →
    Spelled ts rest →
    Spelled (t :: ts) (blanks ++ (cs ++ rest))

end Json

------------------------------------------------------------
-- Scanning Spelled Tokens
------------------------------------------------------------

namespace Json

variable {d : Dialect}
variable {n : Nat}
variable {t : Token}
variable {ts acc : List Token}
variable {blanks cs rest : List Char}

theorem isSpace_of_blanks
    (hBlanks : Blanks blanks) :
    ∀ c ∈ blanks, isSpace c = true := by
  intro c hMem
  have hOneOf := hBlanks c hMem
  simp only [List.mem_cons, List.not_mem_nil, or_false]
    at hOneOf
  simpa [isSpace, or_assoc] using hOneOf

/- A spelled token is scanned, and no more than it. -/
theorem scanToken_of_spells
    (d : Dialect)
    (rest : List Char)
    (hSpells : t.Spells cs) :
    ∃ c cs', cs = c :: cs' ∧ isSpace c = false ∧
      scanToken d (c :: (cs' ++ rest)) = some (t, rest) := by
  cases hSpells with
  | text hText =>
      rcases hText with ⟨parts, hParts, rfl⟩
      refine ⟨'"', _, rfl, by decide, ?_⟩
      rw [List.append_assoc]
      change (scanText .plain [] (parts.flatten ++
        '"' :: rest)).map _ = _
      rw [scanText_parts hParts]
      simp
  | _ => exact ⟨_, [], rfl, by decide, rfl⟩

/- Blanks are passed over. -/
theorem scanFrom_blanks
    (hBlanks : Blanks blanks)
    (hLength : (blanks ++ rest).length ≤ n) :
    ∃ m, rest.length ≤ m ∧
      scanFrom d n acc (blanks ++ rest) =
        scanFrom d m acc rest := by
  induction blanks generalizing n with
  | nil => exact ⟨n, hLength, rfl⟩
  | cons c blanks ih =>
      have hSpace := isSpace_of_blanks hBlanks c
        List.mem_cons_self
      cases n with
      | zero => simp at hLength
      | succ n =>
          rcases ih
            (fun c' hMem =>
              hBlanks c' (List.mem_cons_of_mem c hMem))
            (Nat.le_of_succ_le_succ hLength) with
            ⟨m, hShort, hSame⟩
          refine ⟨m, hShort, ?_⟩
          rw [← hSame, List.cons_append, scanFrom,
            if_pos hSpace]

theorem scanFrom_nil (n : Nat) :
    scanFrom d n acc [] = some acc.reverse := by
  cases n <;> rfl

/- What is spelled is what is scanned. -/
theorem scanFrom_of_spelled
    (hSpelled : Spelled ts cs)
    (hLength : cs.length ≤ n) :
    scanFrom d n acc cs = some (acc.reverse ++ ts) := by
  induction hSpelled generalizing n acc with
  | @nil blanks hBlanks =>
      rw [← List.append_nil blanks] at hLength ⊢
      rcases scanFrom_blanks hBlanks hLength with
        ⟨m, _, hSame⟩
      rw [hSame, scanFrom_nil, List.append_nil]
  | @cons t ts blanks cs rest hBlanks hSpells _ ih =>
      rcases scanFrom_blanks hBlanks hLength with
        ⟨m, hShort, hSame⟩
      rcases scanToken_of_spells d rest hSpells with
        ⟨c, cs', rfl, hSolid, hToken⟩
      cases m with
      | zero => simp at hShort
      | succ m =>
          have hLeft : rest.length ≤ m := by
            simp only [List.length_append,
              List.length_cons] at hShort
            omega
          rw [hSame, List.cons_append, scanFrom,
            if_neg (by simp [hSolid]), hToken]
          change scanFrom d m (t :: acc) rest = _
          rw [ih hLeft, List.reverse_cons,
            List.append_assoc]
          rfl

/- A text is read by the tokens that it spells. -/
theorem read?_of_spelled
    {s : String}
    (hSpelled : Spelled ts s.toList) :
    read? d s = ofTokens? d ts := by
  unfold read? scan
  rw [scanFrom_of_spelled hSpelled (Nat.le_refl _)]
  rfl

end Json

------------------------------------------------------------
-- Reading Records
------------------------------------------------------------

namespace Json

/- The member that a name and a text make. -/
def textPair (m : String × String) : String × Json :=
  (m.1, .str m.2)

/- The object with texts as members. -/
def ofTextMembers (ms : List (String × String)) : Json :=
  .obj (ofMembers (ms.map textPair))

/- The tokens of a member that is a text. -/
def memberTokens (m : String × String) : List Token :=
  [.text m.1, .colon, .text m.2]

/- The tokens of an object with texts as members. -/
def objectTokens (ms : List (String × String)) : List Token :=
  .openObject ::
    ([.comma].intercalate (ms.map memberTokens) ++
      [.closeObject])

/- The tokens of an array of such objects. -/
def arrayTokens
    (mss : List (List (String × String))) : List Token :=
  .openArray ::
    ([.comma].intercalate (mss.map objectTokens) ++
      [.closeArray])

end Json

/-
  A fold over parts with separators between them.  Before
  each part one condition holds of what is done so far, and
  after it another.
-/
theorem List.foldlM_intercalate
    {σ τ β : Type}
    {step : σ → τ → Option σ}
    {part : β → List τ}
    {separator : τ}
    {Before After : List β → σ → Prop}
    (hPart : ∀ done b s, Before done s →
      ∃ s', (part b).foldlM step s = some s' ∧
        After (done ++ [b]) s')
    (hSeparator : ∀ done s, After done s →
      ∃ s', step s separator = some s' ∧ Before done s')
    (b : β)
    (bs : List β)
    {done : List β}
    {s : σ}
    (hStart : Before done s) :
    ∃ s',
      ([separator].intercalate
        ((b :: bs).map part)).foldlM step s = some s' ∧
      After (done ++ b :: bs) s' := by
  rcases hPart done b s hStart with ⟨s₁, hFirst, hAfter⟩
  induction bs generalizing b done s s₁ with
  | nil =>
      refine ⟨s₁, ?_, hAfter⟩
      rw [List.map_singleton, List.intercalate_singleton]
      exact hFirst
  | cons b' bs ih =>
      rcases hSeparator _ _ hAfter with ⟨s₂, hSep, hBefore⟩
      rcases hPart _ b' s₂ hBefore with ⟨s₃, hNext, hAfter'⟩
      rcases ih b' hBefore s₃ hNext hAfter' with
        ⟨s', hRest, hEnd⟩
      refine ⟨s', ?_, ?_⟩
      · rw [List.map_cons, List.map_cons,
          List.intercalate_cons_cons, List.foldlM_append,
          List.foldlM_append, hFirst]
        simp only [Option.bind_eq_bind, Option.bind_some,
          List.foldlM_cons, List.foldlM_nil, hSep,
          Option.pure_def]
        exact hRest
      · rw [List.append_assoc] at hEnd
        exact hEnd

namespace Json

open Progress (place mayOpen)

variable {d : Dialect}
variable {stack : List Frame}

/- An object is open, with these members done so far. -/
def InObject
    (stack : List Frame)
    (next : Awaiting)
    (ms : List (String × String))
    (p : Progress) : Prop :=
  ∃ name,
    p = ⟨.object (ms.map textPair).reverse name :: stack,
      next⟩

/- An array is open, with these objects done so far. -/
def InArray
    (stack : List Frame)
    (next : Awaiting)
    (mss : List (List (String × String)))
    (p : Progress) : Prop :=
  p = ⟨.array (mss.map ofTextMembers).reverse :: stack,
    next⟩

/- A member is read from its tokens. -/
theorem foldlM_memberTokens
    (done : List (String × String))
    (m : String × String)
    (p : Progress)
    (hBefore : InObject stack .name done p ∨
      InObject stack .nameOrEnd done p) :
    ∃ p',
      (memberTokens m).foldlM (Progress.step d) p = some p' ∧
      InObject stack .more (done ++ [m]) p' := by
  have hMore :
      InObject stack .more (done ++ [m])
        ⟨.object ((m.1, .str m.2) ::
          (done.map textPair).reverse) m.1 :: stack,
          .more⟩ := by
    refine ⟨m.1, ?_⟩
    simp [textPair]
  rcases hBefore with ⟨name, rfl⟩ | ⟨name, rfl⟩
  · exact ⟨_, rfl, hMore⟩
  · exact ⟨_, rfl, hMore⟩

/- After a comma, another member may follow. -/
theorem step_member_comma
    (done : List (String × String))
    (p : Progress)
    (hAfter : InObject stack .more done p) :
    ∃ p', Progress.step d p .comma = some p' ∧
      (InObject stack .name done p' ∨
        InObject stack .nameOrEnd done p') := by
  rcases hAfter with ⟨name, rfl⟩
  exact ⟨_, rfl, Or.inl ⟨name, rfl⟩⟩

/- An object with texts is read from its tokens. -/
theorem foldlM_objectTokens
    {next : Awaiting}
    (hOpens : mayOpen d stack = true)
    (hNext : next = .value ∨ next = .valueOrEnd)
    (ms : List (String × String)) :
    (objectTokens ms).foldlM (Progress.step d)
        ⟨stack, next⟩ =
      some (place (ofTextMembers ms) stack) := by
  have hOpen : Progress.step d ⟨stack, next⟩ .openObject =
      some ⟨.object [] "" :: stack, .nameOrEnd⟩ := by
    rcases hNext with rfl | rfl <;>
      simp [Progress.step, Progress.stepValue, hOpens]
  have hStart : InObject stack .nameOrEnd []
      ⟨.object [] "" :: stack, .nameOrEnd⟩ :=
    ⟨"", rfl⟩
  unfold objectTokens
  rw [List.foldlM_cons, hOpen, Option.bind_eq_bind,
    Option.bind_some, List.foldlM_append]
  cases ms with
  | nil => rfl
  | cons m ms =>
      rcases List.foldlM_intercalate foldlM_memberTokens
        step_member_comma m ms (Or.inr hStart) with
        ⟨p, hFold, name, rfl⟩
      rw [hFold]
      simp [Progress.step, Progress.stepMore, ofTextMembers]

/- An object in an array is read as one more of its parts. -/
theorem foldlM_recordTokens
    (hOpens : ∀ done, mayOpen d (.array done :: stack) = true)
    (done : List (List (String × String)))
    (ms : List (String × String))
    (p : Progress)
    (hBefore : InArray stack .value done p ∨
      InArray stack .valueOrEnd done p) :
    ∃ p',
      (objectTokens ms).foldlM (Progress.step d) p =
        some p' ∧
      InArray stack .more (done ++ [ms]) p' := by
  have hMore :
      InArray stack .more (done ++ [ms])
        (place (ofTextMembers ms)
          (.array (done.map ofTextMembers).reverse ::
            stack)) := by
    simp [InArray, place]
  rcases hBefore with rfl | rfl
  · exact ⟨_, foldlM_objectTokens (hOpens _) (Or.inl rfl) ms,
      hMore⟩
  · exact ⟨_, foldlM_objectTokens (hOpens _) (Or.inr rfl) ms,
      hMore⟩

theorem step_record_comma
    (done : List (List (String × String)))
    (p : Progress)
    (hAfter : InArray stack .more done p) :
    ∃ p', Progress.step d p .comma = some p' ∧
      (InArray stack .value done p' ∨
        InArray stack .valueOrEnd done p') := by
  subst hAfter
  exact ⟨_, rfl, Or.inl rfl⟩

/- An array of objects with texts is read from its tokens. -/
theorem ofTokens?_arrayTokens
    (mss : List (List (String × String))) :
    ofTokens? .strict (arrayTokens mss) =
      some (.arr (mss.map ofTextMembers)) := by
  have hOpens (done : List Json) :
      mayOpen .strict [.array done] = true := by
    simp [mayOpen, Dialect.strict]
  have hStart : InArray [] .valueOrEnd []
      ⟨[.array []], .valueOrEnd⟩ :=
    rfl
  have hOpen :
      Progress.step .strict Progress.start .openArray =
        some ⟨[.array []], .valueOrEnd⟩ :=
    rfl
  unfold ofTokens? arrayTokens
  rw [List.foldlM_cons, hOpen, Option.bind_eq_bind,
    Option.bind_some, List.foldlM_append]
  cases mss with
  | nil => rfl
  | cons ms mss =>
      rcases List.foldlM_intercalate
        (foldlM_recordTokens hOpens) step_record_comma ms mss
        (Or.inr hStart) with ⟨p, hFold, rfl⟩
      rw [hFold]
      simp [Progress.step, Progress.stepMore, place,
        Progress.result?]

end Json

end EventTopology
