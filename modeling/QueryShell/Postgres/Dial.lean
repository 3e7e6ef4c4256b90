import QueryShell.Postgres.Wire
import QueryShell.Text.Case
import QueryShell.Text.Search

/-!
How a connection is made. A fault that may pass by itself is waited out, twice as long each time,
until the third attempt has failed.
-/

namespace QueryShell.Postgres

def Fault.mentions (marker : String) (fault : Fault) : Bool :=
  Text.occursIn marker.toList (Text.lower fault.text.toList)

def Fault.isTransient (fault : Fault) : Bool :=
  ["connection refused", "timed out", "timeout", "temporarily unavailable", "connection reset",
    "broken pipe"].any fun marker => fault.mentions marker

structure Endpoint where
  host : String
  port : Nat
  user : String
deriving DecidableEq, Repr

def Endpoint.failure (endpoint : Endpoint) (fault : Fault) : Failure :=
  if fault.mentions "connection refused" || fault.mentions "could not connect" then
    .transport ("Cannot connect to " ++ endpoint.host ++ ":" ++ toString endpoint.port ++
      ". Check that the server is running.")
  else if fault.mentions "authentication failed" then
    .transport ("Authentication failed for user '" ++ endpoint.user ++ "'.")
  else fault.failure

structure Dialer (Network Store : Type) where
  dial : Network → Except Fault Store × Network
  pause : Nat → Network → Network

namespace Dialer

variable {Network Store : Type}

/-- Makes one attempt, and `retries` more while they fail in passing, the first after `delay`. -/
def attempt (dialer : Dialer Network Store) (endpoint : Endpoint) :
    (retries delay : Nat) → Network → Except Failure Store × Network
  | retries, delay, network =>
      match dialer.dial network with
      | (.ok store, network) => (.ok store, network)
      | (.error fault, network) =>
          match retries with
          | 0 => (.error (endpoint.failure fault), network)
          | retries + 1 =>
              if fault.isTransient then
                dialer.attempt endpoint retries (2 * delay) (dialer.pause delay network)
              else (.error (endpoint.failure fault), network)

def maxRetries : Nat := 2

def firstDelay : Nat := 500

def connect (dialer : Dialer Network Store) (endpoint : Endpoint) (network : Network) :
    Except Failure Store × Network :=
  dialer.attempt endpoint maxRetries firstDelay network

end Dialer

end QueryShell.Postgres
