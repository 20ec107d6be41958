import EventTopology.Cluster.Coordinates
import EventTopology.Http.Error
import EventTopology.Record.Report

/-
  This file defines why a step can fail, one constructor for
  each cause, and the words in which each cause is told.

  Key definitions include:
    * `ClusterError`
    * `Failure`
    * `Failure.typeName`
    * `Failure.words`
    * `Failure.isMeshError`
-/

------------------------------------------------------------
-- Failing Clusters
------------------------------------------------------------

namespace EventTopology

/- Why a cluster could not answer. -/
inductive ClusterError where
/- What is asked for does not exist. -/
| notFound (message : String)
/- Anything else, with the status of the answer if known. -/
| failed (message : String) (status : Option Int)
deriving DecidableEq, Repr

namespace ClusterError

/- What went wrong, in words. -/
def message : ClusterError → String
| .notFound m => m
| .failed m _ => m

/- The status of the answer. -/
def status : ClusterError → Option Int
| .notFound _ => some 404
| .failed _ s => s

/- The name of the class of an error. -/
def typeName : ClusterError → String
| .notFound _ => "ResourceNotFound"
| .failed _ _ => "AdapterError"

end ClusterError

------------------------------------------------------------
-- Causes of Failure
------------------------------------------------------------

/- The parts that a schema definition cannot lack. -/
inductive DefinitionPart where
| group
| plural
| version
deriving DecidableEq, Repr

/- What is wrong with a declaration of event types. -/
inductive DeclarationFault where
| notJson
| notObjects
deriving DecidableEq, Repr

/- Why a step failed. -/
inductive Failure where
| cluster (error : ClusterError)
/- A listing that a build cannot do without. -/
| listing (name : String) (cause : ClusterError)
/- The listing of the definitions with a tag. -/
| definitions (tag : String) (cause : ClusterError)
| missingPart (part : DefinitionPart) (definition : Json)
/- Versions are declared, but none of them is served. -/
| notServed (definition : Json)
| declaration (definition : String) (fault : DeclarationFault)
| invalid (record : String) (faults : List Record.Fault)
| shape (fault : Json.ShapeFault)
| key (fault : Key.Fault)
/- A text that should be JSON. -/
| notJson
| noFile (path : String)
/- A setting that should be JSON. -/
| setting (field : String)
/- A function called with the wrong arguments. -/
| arguments (words : String)
/- A number where a number cannot be had. -/
| notNumber (words : String)
/- A whole number too large for a double. -/
| tooLarge (words : String)
/- A text that cannot be written in Latin-1. -/
| notLatin (words : String)
/- An error that a framework answers with its status. -/
| http (error : Http.Error)
/- A collaborator failed, in its own words. -/
| collaborator (words : String)
/- It failed with an error of the family of builds. -/
| meshError (typeName words : String)

namespace Failure

/- A shape fault as a failure. -/
def ofShape
    {α : Type} :
    Except Json.ShapeFault α → Except Failure α
| .ok a => .ok a
| .error e => .error (.shape e)

/- The error of HTTP that a failure is, if it is one. -/
def http? : Failure → Option Http.Error
| .http e => some e
| _ => none

/- A checked record as an outcome. -/
def ofChecked
    {α : Type}
    (record : String) :
    Record.Checked α → Except Failure α
| .valid a => .ok a
| .faulty faults => .error (.invalid record faults)

end Failure

------------------------------------------------------------
-- Words for Failures
------------------------------------------------------------

namespace DefinitionPart

/- The part of a definition, in words. -/
def words : DefinitionPart → String
| .group => "group"
| .plural => "plural resource name"
| .version => "version"

end DefinitionPart

namespace DeclarationFault

/- What is wrong with a declaration, in words. -/
def words : DeclarationFault → String
| .notJson => "the annotation is not JSON"
| .notObjects => "expected a JSON array of objects"

end DeclarationFault

namespace Failure

/- The name of the class of a failure. -/
def typeName : Failure → String
| .cluster e => e.typeName
| .listing _ _ => "ListingError"
| .definitions _ _ => "DiscoveryError"
| .missingPart _ _ => "DiscoveryError"
| .notServed _ => "NotServedError"
| .declaration _ _ => "DeclarationParseError"
| .invalid _ _ => "ValidationError"
| .shape e => e.cls.typeName
| .key _ => "ValueError"
| .notJson => "JSONDecodeError"
| .noFile _ => "FileNotFoundError"
| .setting _ => "SettingsError"
| .arguments _ => "TypeError"
| .notNumber _ => "ValueError"
| .tooLarge _ => "OverflowError"
| .notLatin _ => "UnicodeEncodeError"
| .http e => e.typeName
| .collaborator _ => "RuntimeError"
| .meshError name _ => name

/-
  What went wrong, in words.  Faults of records point to the
  help pages under the given address.
-/
def words (helpPages : String) : Failure → String
| .cluster e => e.message
| .listing name cause =>
    "error listing " ++ name ++ ": " ++ cause.message
| .definitions tag cause =>
    "error listing schema definitions tagged " ++ tag ++
      ": " ++ cause.message
| .missingPart part definition =>
    "can't find " ++ part.words ++
      " in schema definition " ++ definition.text
| .notServed definition =>
    "no served version in schema definition " ++
      definition.text
| .declaration definition fault =>
    "failed to parse event types declared by " ++
      definition ++ ": " ++ fault.words
| .invalid record faults =>
    Record.report helpPages record faults
| .shape e => e.message
| .key e => e.message
| .notJson => "the text is not JSON"
| .noFile path =>
    "[Errno 2] No such file or directory: " ++
      Text.quoted path
| .setting field =>
    "error parsing value for field \"" ++ field ++ "\""
| .arguments w => w
| .notNumber w => w
| .tooLarge w => w
| .notLatin w => w
| .http e => e.words
| .collaborator w => w
| .meshError _ w => w

/- What went wrong, in words, without an address of help. -/
def message (f : Failure) : String :=
  f.words ""

/-
  Is it one of the failures that a build reports as its own?
  These abort a build or skip one of its items.
-/
def isMeshError : Failure → Bool
| .listing _ _ => true
| .definitions _ _ => true
| .missingPart _ _ => true
| .notServed _ => true
| .declaration _ _ => true
| .meshError _ _ => true
| _ => false

/- Why the identity of a subscriber is not known, in words. -/
def lookupWords
    (reference : String)
    (cause : ClusterError) : String :=
  "error getting identity of subscriber " ++ reference ++
    ": " ++ cause.message

end Failure

end EventTopology
