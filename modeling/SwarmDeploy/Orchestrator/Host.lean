import SwarmDeploy.Orchestrator.Listing
import SwarmDeploy.Text.Blank
import SwarmDeploy.Text.Split

/-! The address of an engine as the base of its URLs. -/

namespace SwarmDeploy.Orchestrator
open Text

def bareHost (cs : List Char) : List Char :=
  dropEndWhile (· == '/') (trim cs)

def tcpScheme : List Char := "tcp://".toList

def httpScheme : List Char := "http://".toList

def httpsScheme : List Char := "https://".toList

def schemeMark : List Char := "://".toList

/-- The base URL for an address; of the schemes only `tcp`, `http` and `https` are supported. -/
def baseUrlChars (cs : List Char) : Except Failure (List Char) :=
  let host := bareHost cs
  if host.isEmpty then .error (.invalidHost "empty host")
  else
    match dropStart tcpScheme host with
    | some rest => .ok (httpScheme ++ rest)
    | none =>
      if (dropStart httpScheme host).isSome || (dropStart httpsScheme host).isSome then .ok host
      else if occurs schemeMark host then
        .error (.invalidHost ("unsupported scheme in '" ++ String.ofList host ++
          "', expose the Engine over tcp"))
      else .ok (httpScheme ++ host)

def baseUrl (host : String) : Except Failure String :=
  (baseUrlChars host.toList).map String.ofList

end SwarmDeploy.Orchestrator
