import EventTopology.Table

/-
  This file defines how a client reaches a cluster and as
  whom, and how a configuration is made to act as a caller.

  Key definitions include:
    * `Configuration`
    * `Configuration.withBearerToken`
    * `Configuration.forCaller`
-/

------------------------------------------------------------
-- Configurations
------------------------------------------------------------

namespace EventTopology

/- Where a cluster is and how to authenticate there. -/
structure Configuration where
  host : String
  apiKey : Table String := []
  apiKeyPrefix : Table String := []
  username : Option String := none
  password : Option String := none
  certFile : Option String := none
  keyFile : Option String := none
  sslCaCert : Option String := none
  verifySsl : Bool := true
  /- Is the key refreshed before each call? -/
  refreshHook : Bool := false
deriving DecidableEq, Repr

namespace Configuration

/- The name under which keys are sent. -/
def authorization : String := "authorization"

/- The key that is sent, if there is one. -/
def sentKey (c : Configuration) : Option String :=
  Table.lookup authorization c.apiKey

end Configuration

------------------------------------------------------------
-- Acting as a Caller
------------------------------------------------------------

namespace Configuration

/-
  A configuration that authenticates as the owner of a token
  and in no other way.  Where the cluster is and whether it
  is trusted stay the same.
-/
def withBearerToken
    (c : Configuration)
    (token : String) : Configuration :=
  { c with
    apiKey := [(authorization, token)]
    apiKeyPrefix := [(authorization, "Bearer")]
    username := none
    password := none
    certFile := none
    keyFile := none
    refreshHook := false }

/- The token of a caller; the empty text is none. -/
def callerToken : Option String → Option String
| none => none
| some token => if token = "" then none else some token

/-
  The configuration for a caller.  Without a token it is the
  shared one.
-/
def forCaller
    (c : Configuration)
    (token : Option String) : Configuration :=
  match callerToken token with
  | none => c
  | some token => c.withBearerToken token

end Configuration

end EventTopology
