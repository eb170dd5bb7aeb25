import DocGateway.Storage.Connection

/-!
How a connection tells of failures.

Errors of the client are told as reports, of the connection if the server cannot be reached and of
the query otherwise (`Told`). All other failures are passed on, so a failure that was told already
can be told again without harm.
-/

namespace DocGateway

variable {α β : Type}

/-- An answer that is no error of the client. -/
def HidesClientErrors (r : Except Failure α) : Prop := ∀ e, r ≠ .error (.client e)

namespace HidesClientErrors

theorem ok (a : α) : HidesClientErrors (.ok a) := nofun

theorem error {f : Failure} (own : ∀ e, f ≠ .client e)
    : HidesClientErrors (.error f : Except Failure α) := by
  intro e same
  exact own e (Except.error.inj same)

theorem own {f : Failure} (hides : HidesClientErrors (.error f : Except Failure α))
    : ∀ e, f ≠ .client e := by
  rintro e rfl
  exact hides e rfl

theorem map {r : Except Failure α} (hides : HidesClientErrors r) (g : α → β)
    : HidesClientErrors (r.map g) := by
  cases r with
  | ok a => exact .ok (g a)
  | error f => exact .error hides.own

end HidesClientErrors

/-- How the failure of a call is told: errors of the client as reports, a lost connection apart from
the others, and every other failure as it is.
-/
inductive Told (call : String) (model : Value) (details : List (String × Value))
    : Failure → Failure → Prop
  | unreachable {e : ClientError} (connection : e.isConnection = true)
    : Told call model details (.client e)
        (.report ⟨.storageConnection, .text ("MongoDB is unreachable: " ++ e.message),
          [("model_id", .value model)]⟩)
  | refused {e : ClientError} (connected : e.isConnection = false)
    : Told call model details (.client e)
        (.report ⟨.storageQuery, .text (call ++ " failed: " ++ e.message),
          ("model_id", .value model) :: details.map fun d => (d.1, .value d.2)⟩)
  | passedOn {f : Failure} (own : ∀ e, f ≠ .client e) : Told call model details f f

theorem Told.own {call : String} {model : Value} {details : List (String × Value)} {f f' : Failure}
    (told : Told call model details f f')
    : ∀ e, f' ≠ .client e := by
  cases told with
  | unreachable => exact nofun
  | refused => exact nofun
  | passedOn own => exact own

namespace Connector

theorem told_callFailure (call : String) (model : Value) (details : List (String × Value))
    (f : Failure)
    : Told call model details f (callFailure call model details f) := by
  cases f
  case client e =>
    cases connection : e.isConnection with
    | true =>
      simp only [callFailure, connection, if_true]
      exact .unreachable connection
    | false =>
      simp only [callFailure, connection, Bool.false_eq_true, if_false]
      exact .refused connection
  all_goals
    refine .passedOn fun e same => ?_
    cases same

theorem callFailure_of_own {f : Failure} (own : ∀ e, f ≠ .client e) (call : String) (model : Value)
    (details : List (String × Value))
    : callFailure call model details f = f := by
  cases f with
  | client e => exact absurd rfl (own e)
  | _ => rfl

theorem connectFailure_own (f : Failure) : ∀ e, connectFailure f ≠ .client e := by
  cases f <;> exact nofun

end Connector

end DocGateway
