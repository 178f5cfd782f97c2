import SwarmDeploy.Proofs.Orchestrator.Exchange
import SwarmDeploy.Proofs.Orchestrator.Serving

/-! An engine that answers by a script.
Its responses are used up in their order, one for each call, and each call is one request. What a
response says is a matter of its status first and then of its body. -/

namespace SwarmDeploy.Orchestrator
open Json Service Text

/-- What an error of the engine says: the message in the text, or else the text. -/
inductive ErrorText (text : List Char) : String → Prop
  | message {v : Value} : errorShape.readDocument (Utf8.encode text) = .ok v →
    ErrorText text (v.field "message").textOf
  | whole {fault : Fault} : errorShape.readDocument (Utf8.encode text) = .error fault →
    ErrorText text (String.ofList text)

/-- The failure of a response: an error of the engine by its status, or else a body that does not
read as it should. -/
inductive FailureOf (shape : Shape) (response : EngineResponse) : Failure → Prop
  | status {message : String} : ¬(200 ≤ response.status ∧ response.status < 300) →
    ErrorText (Utf8.decodeLossy response.body) message →
      FailureOf shape response (.api response.status message)
  | body {fault : Fault} : 200 ≤ response.status ∧ response.status < 300 →
    shape.readDocument response.body = .error fault →
      FailureOf shape response (.parse "error decoding response body")

variable {α : Type} {shape : Shape} {ofJson : Value → α} {response : EngineResponse}

theorem isSuccess_iff {status : Nat} : isSuccess status = true ↔ 200 ≤ status ∧ status < 300 := by
  rw [isSuccess, Bool.and_eq_true, decide_eq_true_eq, decide_eq_true_eq]

theorem errorText_iff {body : List UInt8} {message : String} :
    ErrorText (Utf8.decodeLossy body) message ↔ errorMessage body = message := by
  unfold errorMessage
  dsimp only
  constructor
  · intro text
    cases text with
    | message read => simp only [read]
    | whole failed => simp only [failed]
  · rintro rfl
    split
    · rename_i read
      exact .message read
    · rename_i failed
      exact .whole failed

theorem readResponse_of_success (success : 200 ≤ response.status ∧ response.status < 300) :
    readResponse shape ofJson response =
      ((shape.readDocument response.body).mapError
        fun _ => .parse "error decoding response body").map ofJson := by
  rw [readResponse, if_pos (isSuccess_iff.2 success)]
  cases shape.readDocument response.body <;> rfl

theorem readResponse_of_status (other : ¬(200 ≤ response.status ∧ response.status < 300)) :
    readResponse shape ofJson response =
      .error (.api response.status (errorMessage response.body)) := by
  rw [readResponse, if_neg (mt isSuccess_iff.1 other)]

theorem readResponse_eq_error_iff {failure : Failure} :
    readResponse shape ofJson response = .error failure ↔ FailureOf shape response failure := by
  by_cases success : 200 ≤ response.status ∧ response.status < 300
  · rw [readResponse_of_success success, map_eq_error_iff, mapError_eq_error_iff]
    constructor
    · rintro ⟨fault, failed, rfl⟩
      exact .body success failed
    · intro failed
      cases failed with
      | status other _ => exact absurd success other
      | body _ failed => exact ⟨_, failed, rfl⟩
  · rw [readResponse_of_status success, Except.error.injEq]
    constructor
    · rintro rfl
      exact .status success (errorText_iff.2 rfl)
    · intro failed
      cases failed with
      | status _ text => rw [errorText_iff.1 text]
      | body other _ => exact absurd other success

def secretsIn : EngineResponse → Reply (List SecretSummary) :=
  readResponse (.many engineSecretShape) fun v => v.itemsOf.map engineSecretOfJson

def networksIn : EngineResponse → Reply (List NetworkSummary) :=
  readResponse (.many NetworkSummary.shape) fun v => v.itemsOf.map NetworkSummary.ofJson

def createdIn : EngineResponse → Reply Created :=
  readResponse Created.shape Created.ofJson

def Answers (read : EngineResponse → Reply α) (request : EngineRequest) (reply : Reply α) :
    Option EngineResponse → Prop
  | some response => reply = read response
  | none => reply = .error (.http ("error sending request for url (" ++ request.url ++ ")"))

theorem exchange_scripted {request : EngineRequest}
    (header : request.registryAuth.all isHeaderValue = true) (s : Script) :
    Answers (readResponse shape ofJson) request (exchange scripted shape ofJson request s).1
        s.responses.head? ∧
      (exchange scripted shape ofJson request s).2 =
        ⟨s.responses.drop 1, s.sent ++ [request]⟩ := by
  simp only [exchange, header, if_true, scripted]
  cases s.responses.head? <;> exact ⟨rfl, rfl⟩

def Exchange.AnsweredBy (e : Engine) (response : Option EngineResponse) : Exchange → Prop
  | .findSecrets names reply => Answers secretsIn (e.request (.findSecrets names)) reply response
  | .findNetworks label reply =>
    Answers networksIn (e.request (.findNetworks label)) reply response
  | .create spec options reply =>
    Answers createdIn (e.request (.create spec options)) reply response

def Answered (e : Engine) : List EngineResponse → List Exchange → Prop
  | _, [] => True
  | responses, x :: trace => x.AnsweredBy e responses.head? ∧ Answered e (responses.drop 1) trace

def Exchange.Sendable (e : Engine) (x : Exchange) : Prop :=
  (e.request x.call).registryAuth.all isHeaderValue = true

def requestsFor (e : Engine) (trace : List Exchange) : List EngineRequest :=
  trace.map fun x => e.request x.call

/-- The exchanges of a run follow the script, and the requests for them are what was sent. -/
structure FollowsScript (e : Engine) (s : Script) (trace : List Exchange) (last : Script) :
    Prop where
  answered : Answered e s.responses trace
  sent : last.sent = s.sent ++ requestsFor e trace

theorem FollowsScript.cons {e : Engine} {s next last : Script} {x : Exchange}
    {trace : List Exchange} (answered : x.AnsweredBy e s.responses.head?)
    (step : next = ⟨s.responses.drop 1, s.sent ++ [e.request x.call]⟩)
    (follows : FollowsScript e next trace last) : FollowsScript e s (x :: trace) last := by
  subst step
  refine ⟨⟨answered, follows.answered⟩, ?_⟩
  rw [follows.sent, List.append_assoc]
  rfl

theorem Plan.followsScript (e : Engine) (p : Plan α) (s : Script)
    (sendable : ∀ x ∈ p.exchanges (e.through scripted) s, x.Sendable e) :
    FollowsScript e s (p.exchanges (e.through scripted) s)
      (p.run (e.through scripted) s).state := by
  -- One call uses up one response and adds one request; the rest of the run starts from there.
  induction p generalizing s with
  | done result => exact ⟨trivial, (List.append_nil s.sent).symm⟩
  | log event rest ih => exact ih s sendable
  | findSecrets names next ih =>
    obtain ⟨header, later⟩ := List.forall_mem_cons.1 sendable
    obtain ⟨answers, state⟩ := exchange_scripted header s
    exact .cons answers state (ih _ _ later)
  | findNetworks label next ih =>
    obtain ⟨header, later⟩ := List.forall_mem_cons.1 sendable
    obtain ⟨answers, state⟩ := exchange_scripted header s
    exact .cons answers state (ih _ _ later)
  | create spec options next ih =>
    obtain ⟨header, later⟩ := List.forall_mem_cons.1 sendable
    obtain ⟨answers, state⟩ := exchange_scripted header s
    exact .cons answers state (ih _ _ later)

end SwarmDeploy.Orchestrator
