import DocGateway.Proofs.Storage.OnDemand
import Mathlib.Data.List.Chain

/-!
Connections over any sequence of requests.

Each request does to the connection what getting on demand does, or closes it. A client that is kept
stays until then, so between two closings the server is dialled with success at most once
(`Connector.made_at_most_once`).
-/

namespace DocGateway

variable {κ σ : Type}

namespace Connector

-----------------------------------------------------------------------------------------
-- Requests
-----------------------------------------------------------------------------------------

/-- What may be asked of a connection. -/
inductive Request where
  | client
  | database
  | collection (model : Value)
  | ping
  | close
  | updateOne (model selector updates : Value)
  | updateBulk (given : List (Given FlatUpdate))
  | find (model : Value) (search : DocumentSearch)
  | countDocuments (model query : Value)

/-- What a request needs. Closing needs nothing, and updates that cannot be read never need the
database.
-/
def Request.needs : Request → Need
  | client | ping => .client
  | close => .nothing
  | updateBulk given =>
    match given.mapM FlatUpdate.ofGiven with
    | .ok ops => needOf ops
    | .error _ => .nothing
  | database | collection _ | updateOne .. | find .. | countDocuments .. => .database

/-- Does what is asked; answers are left out. -/
def perform (c : Connector κ σ) : Request → Action (Connection κ × σ) Unit
  | .client => discard c.getClient
  | .database => discard c.getDatabase
  | .collection model => discard (c.getCollection model)
  | .ping => discard c.ping
  | .close => c.close
  | .updateOne model selector updates => discard (c.updateOne model selector updates)
  | .updateBulk given => discard (c.updateBulkGiven given)
  | .find model search => discard (c.find model search)
  | .countDocuments model query => discard (c.countDocuments model query)

section

variable {c : Connector κ σ}

theorem opens_updateBulkGiven (given : List (Given FlatUpdate))
    : c.Opens (Request.updateBulk given).needs (c.dialled.updateBulkGiven given)
        (c.updateBulkGiven given) := by
  simp only [updateBulkGiven, Request.needs]
  cases given.mapM FlatUpdate.ofGiven with
  | ok ops => exact opens_updateBulk ops
  | error f => exact Keeps.opens (Keeps.ofExcept (.error f))

theorem opens_perform {r : Request} (stays : r ≠ .close)
    : c.Opens r.needs (c.dialled.perform r) (c.perform r) := by
  cases r with
  | client => exact opens_getClient.discard
  | database => exact opens_getDatabase.discard
  | collection model => exact (opens_getCollection model).discard
  | ping => exact opens_ping.discard
  | close => exact absurd rfl stays
  | updateOne model selector updates => exact (opens_updateOne model selector updates).discard
  | updateBulk given => exact (opens_updateBulkGiven given).discard
  | find model search => exact (opens_find model search).discard
  | countDocuments model query => exact (opens_countDocuments model query).discard

theorem close_dialled (s : Connection κ × Dialled κ σ)
    : (c.dialled.close.run s).undialled = c.close.run (s.1, s.2.1)
      ∧ (c.dialled.close.run s).state.2.2 = s.2.2 := by
  obtain ⟨⟨client?, database?⟩, t, past⟩ := s
  cases client? with
  | none => exact ⟨rfl, rfl⟩
  | some client =>
    have close : c.dialled.client.close client = (c.client.close client).beside := rfl
    simp only [Connector.close, Action.run_bind, Action.run_current, Outcome.andThen_ok,
      Action.run_onSecond, close, Action.run_beside]
    rcases (c.client.close client).run t with ⟨_ | _, _, _⟩
    · exact ⟨rfl, rfl⟩
    · exact ⟨rfl, rfl⟩

/-- What closing leaves: nothing, unless the client could not be closed. -/
theorem run_close (s : Connection κ × σ)
    : (∀ f, (c.close.run s).result = .error f → (c.close.run s).state.1 = s.1 ∧ s.1.client? ≠ none)
      ∧ ((c.close.run s).result = .ok () → (c.close.run s).state.1 = ⟨none, none⟩) := by
  obtain ⟨⟨client?, database?⟩, t⟩ := s
  cases client? with
  | none => exact ⟨nofun, fun _ => rfl⟩
  | some client =>
    simp only [Connector.close, Action.run_bind, Action.run_current, Outcome.andThen_ok,
      Action.run_onSecond]
    rcases (c.client.close client).run t with ⟨_ | _, _, _⟩
    · exact ⟨fun _ _ => ⟨rfl, nofun⟩, nofun⟩
    · exact ⟨nofun, fun _ => rfl⟩

/-- Counting the dials changes nothing. -/
theorem undialled_perform (r : Request) (s : Connection κ × Dialled κ σ)
    : ((c.dialled.perform r).run s).undialled = (c.perform r).run (s.1, s.2.1) := by
  by_cases closing : r = .close
  · subst closing
    exact (close_dialled s).1
  · exact (opens_perform closing s).1

end

-----------------------------------------------------------------------------------------
-- Visits
-----------------------------------------------------------------------------------------

/-- A request that was served: the connection before and after it, the dials that it made and what
it came to.
-/
structure Visit (κ : Type) where
  request : Request
  before : Connection κ
  dials : Dials κ
  result : Except Failure Unit
  after : Connection κ

namespace Visit

/-- The connection was closed. -/
def Closes (v : Visit κ) : Prop := v.request = .close ∧ v.result = .ok ()

/-- The clients that were made. -/
def made (v : Visit κ) : List κ := v.dials.filterMap Except.toOption

/-- A request gets what it needs or closes the connection. It fails to close it only if there is a
client, and then it leaves it as it was.
-/
structure Lawful (c : Connector κ σ) (v : Visit κ) : Prop where
  gets : v.request ≠ .close → c.Gets v.request.needs v.before v.dials v.result v.after
  silent : v.request = .close → v.dials = []
  closes : v.Closes → v.after = ⟨none, none⟩
  fails : v.request = .close → ¬ v.Closes → v.after = v.before ∧ v.before.client? ≠ none

end Visit

/-- Serves a request. -/
def visit (c : Connector κ σ) (r : Request) (s : Connection κ × σ) : Visit κ where
  request := r
  before := s.1
  dials := ((c.dialled.perform r).run (s.1, s.2, [])).state.2.2
  result := ((c.perform r).run s).result
  after := ((c.perform r).run s).state.1

/-- Serves requests one after the other. -/
def serve (c : Connector κ σ) : List Request → Connection κ × σ → List (Visit κ)
  | [], _ => []
  | r :: rs, s => c.visit r s :: serve c rs ((c.perform r).run s).state

section

variable {c : Connector κ σ}

theorem lawful_visit (r : Request) (s : Connection κ × σ) : (c.visit r s).Lawful c where
  gets stays := by
    obtain ⟨_, ⟨dials, made, gets⟩, _⟩ := opens_perform (c := c) stays (s.1, s.2, [])
    have served : (c.perform r).run s = ((c.dialled.perform r).run (s.1, s.2, [])).undialled :=
      (undialled_perform r (s.1, s.2, [])).symm
    have dialled : (c.visit r s).dials = dials := made
    have result : (c.visit r s).result = _ := congrArg Outcome.result served
    have after : (c.visit r s).after = _ := congrArg (fun o => o.state.1) served
    rw [dialled, result, after]
    exact gets
  silent closing := by
    cases closing
    exact (close_dialled _).2
  closes closes := by
    obtain ⟨closing, ok⟩ := closes
    cases closing
    exact (run_close s).2 ok
  fails closing open_ := by
    cases closing
    cases result : (c.close.run s).result with
    | error f => exact (run_close s).1 f result
    | ok => exact absurd ⟨rfl, result⟩ open_

theorem before_of_head?_serve {rs : List Request} {s : Connection κ × σ}
    : ∀ v ∈ (c.serve rs s).head?, v.before = s.1 := by
  intro v head
  cases rs with
  | nil => cases head
  | cons r rs =>
    cases head
    rfl

theorem lawful_serve (rs : List Request) (s : Connection κ × σ)
    : ∀ v ∈ c.serve rs s, v.Lawful c := by
  induction rs generalizing s with
  | nil => exact List.forall_mem_nil _
  | cons r rs ih => exact List.forall_mem_cons.2 ⟨lawful_visit r s, ih _⟩

/-- Every request finds the connection as the one before has left it. -/
theorem isChain_serve (rs : List Request) (s : Connection κ × σ)
    : (c.serve rs s).IsChain fun v w => v.after = w.before := by
  induction rs generalizing s with
  | nil => exact .nil
  | cons r rs ih =>
    exact List.isChain_cons.2 ⟨fun w head => (before_of_head?_serve w head).symm, ih _⟩

/-- What holds of a connection at first, and is kept by every request, holds all the time. -/
theorem serve_induction {P : Connection κ → Prop}
    (step : ∀ v : Visit κ, v.Lawful c → P v.before → P v.after) (rs : List Request)
    {s : Connection κ × σ} (start : P s.1)
    : ∀ v ∈ c.serve rs s, P v.before ∧ P v.after := by
  induction rs generalizing s with
  | nil => exact List.forall_mem_nil _
  | cons r rs ih =>
    have next : P ((c.perform r).run s).state.1 := step _ (lawful_visit r s) start
    exact List.forall_mem_cons.2 ⟨⟨start, next⟩, ih next⟩

theorem Visit.Lawful.sound {v : Visit κ} (lawful : v.Lawful c) (sound : v.before.Sound c.database)
    : v.after.Sound c.database := by
  by_cases closing : v.request = .close
  · by_cases closes : v.Closes
    · rw [lawful.closes closes]
      exact nofun
    · rw [(lawful.fails closing closes).1]
      exact sound
  · exact (lawful.gets closing).sound sound

theorem dials_of_kept {k : Connection κ} (kept : k.client?.isSome) (need : Need)
    : c.dials k need = false := by
  cases need <;> simp [dials, dialsForClient, Option.isNone_eq_false_iff.2 kept]

/-- A client that is kept spares all dials until it is closed. -/
theorem Visit.Lawful.kept {v : Visit κ} (lawful : v.Lawful c) (stays : ¬ v.Closes)
    (kept : v.before.client?.isSome)
    : v.dials = [] ∧ v.after.client?.isSome := by
  by_cases closing : v.request = .close
  · rw [(lawful.fails closing stays).1]
    exact ⟨lawful.silent closing, kept⟩
  · have gets := lawful.gets closing
    obtain ⟨client, same⟩ := Option.isSome_iff_exists.1 kept
    exact ⟨by simpa [dials_of_kept kept] using gets.dialled,
      Option.isSome_iff_exists.2 ⟨client, gets.kept client same⟩⟩

/-- A client is made once at most, and then it is kept. -/
theorem Visit.Lawful.made {v : Visit κ} (lawful : v.Lawful c)
    : v.made = [] ∨ ∃ client, v.made = [client] ∧ v.after.client? = some client := by
  by_cases closing : v.request = .close
  · exact .inl (by simp [Visit.made, lawful.silent closing])
  · have gets := lawful.gets closing
    have few : v.dials.length ≤ 1 := by
      rw [gets.dialled]
      split <;> decide
    match dialled : v.dials with
    | [] => exact .inl (by simp [Visit.made, dialled])
    | [.error f] => exact .inl (by simp [Visit.made, dialled, Except.toOption])
    | [.ok client] =>
      exact .inr ⟨client, by simp [Visit.made, dialled, Except.toOption],
        gets.made client (by simp [dialled])⟩
    | _ :: _ :: _ => simp [dialled] at few

section

variable {vs : List (Visit κ)} (lawful : ∀ v ∈ vs, v.Lawful c)
  (chained : vs.IsChain fun v w => v.after = w.before) (stays : ∀ v ∈ vs, ¬ v.Closes)

include lawful chained stays

theorem silent_of_kept (kept : ∀ v ∈ vs.head?, v.before.client?.isSome)
    : ∀ v ∈ vs, v.dials = [] := by
  induction vs with
  | nil => exact List.forall_mem_nil _
  | cons v vs ih =>
    obtain ⟨next, chained⟩ := List.isChain_cons.1 chained
    obtain ⟨first, lawful⟩ := List.forall_mem_cons.1 lawful
    obtain ⟨open_, stays⟩ := List.forall_mem_cons.1 stays
    obtain ⟨silent, kept⟩ := first.kept open_ (kept v rfl)
    exact List.forall_mem_cons.2
      ⟨silent, ih lawful chained stays fun w head => next w head ▸ kept⟩

theorem made_at_most_once : (vs.flatMap Visit.made).length ≤ 1 := by
  induction vs with
  | nil => exact Nat.zero_le 1
  | cons v vs ih =>
    obtain ⟨next, chained'⟩ := List.isChain_cons.1 chained
    obtain ⟨first, lawful'⟩ := List.forall_mem_cons.1 lawful
    have stays' := (List.forall_mem_cons.1 stays).2
    rw [List.flatMap_cons, List.length_append]
    rcases first.made with nothing | ⟨client, made, kept⟩
    · rw [nothing]
      simpa using ih lawful' chained' stays'
    · have silent : ∀ w ∈ vs, w.dials = [] := by
        refine silent_of_kept lawful' chained' stays' fun w head => ?_
        rw [← next w head, kept]
        rfl
      have rest : vs.flatMap Visit.made = [] :=
        List.flatMap_eq_nil_iff.2 fun w member => by simp [Visit.made, silent w member]
      rw [made, rest]
      exact Nat.le_refl 1

end

end

/-- A connection connects lazily, whatever is asked of it and whatever the server does. The database
that is kept is always the configured one of the client that is kept. A request dials exactly if it
needs a client and none is kept, also after failures; where that fails or a setting is missing, the
request fails and changes nothing, and a client that is made is kept whatever fails after it.
Closing forgets everything, unless there is a client that cannot be closed, and until then at most
one client is made, and none as long as one was handed over.
-/
theorem serve_connects_lazily (c : Connector κ σ) (handed? : Option κ) (server : σ)
    (requests : List Request)
    : let visits := c.serve requests (⟨handed?, none⟩, server)
      (∀ v ∈ visits,
        v.before.Sound c.database
        ∧ v.after.Sound c.database
        ∧ (v.Closes → v.after = ⟨none, none⟩)
        ∧ (v.request = .close → ¬ v.Closes → v.after = v.before ∧ v.before.client? ≠ none)
        ∧ v.dials.length = (if c.dials v.before v.request.needs then 1 else 0)
        ∧ (∀ client, .ok client ∈ v.dials → v.after.client? = some client)
        ∧ (∀ f, .error f ∈ v.dials → v.result = .error (connectFailure f) ∧ v.after = v.before)
        ∧ ∀ name, c.lacks? v.before v.request.needs = some name
            → v.result = .error (missing name) ∧ v.after = v.before)
      ∧ (∀ segment, segment <:+: visits → (∀ v ∈ segment, ¬ v.Closes)
        → (segment.flatMap Visit.made).length ≤ 1)
      ∧ ∀ segment, segment <+: visits → (∀ v ∈ segment, ¬ v.Closes) → handed? ≠ none
        → ∀ v ∈ segment, v.dials = [] := by
  intro visits
  have lawful : ∀ v ∈ visits, v.Lawful c := lawful_serve requests _
  have chained : visits.IsChain fun v w => v.after = w.before := isChain_serve requests _
  refine ⟨fun v member => ?_, ?_, ?_⟩
  · have start : Connection.Sound c.database ⟨handed?, none⟩ := fun _ => nofun
    obtain ⟨before, after⟩ := serve_induction (fun _ => Visit.Lawful.sound) requests start v member
    have lawful := lawful v member
    refine ⟨before, after, lawful.closes, lawful.fails, ?_⟩
    by_cases closing : v.request = .close
    · have silent := lawful.silent closing
      rw [closing]
      refine ⟨by rw [silent]; rfl, fun client made => ?_, fun f failed => ?_, nofun⟩
      · simp [silent] at made
      · simp [silent] at failed
    · have gets := lawful.gets closing
      exact ⟨gets.dialled, gets.made, gets.refused, gets.lacking⟩
  · intro segment inside stays
    have chained' : segment.IsChain fun v w => v.after = w.before := by
      obtain ⟨earlier, later, joined⟩ := inside
      rw [← joined] at chained
      exact chained.left_of_append.right_of_append
    exact made_at_most_once (fun v member => lawful v (inside.subset member)) chained' stays
  · intro segment first stays handed
    obtain ⟨rest, joined⟩ := first
    have chained' : segment.IsChain fun v w => v.after = w.before := by
      rw [← joined] at chained
      exact chained.left_of_append
    refine silent_of_kept (fun v member => lawful v ?_) chained' stays fun v head => ?_
    · rw [← joined]
      exact List.mem_append_left rest member
    have head : v ∈ visits.head? := by
      rw [← joined, List.head?_append, head]
      rfl
    rw [before_of_head?_serve v head]
    exact Option.isSome_iff_ne_none.2 handed

/-- A server that refuses the first client. It is dialled again for the next search, not for the
ping, and after closing once more; with a client handed over it is not dialled at all. A database
whose name is refused is not kept, but the client that was made for it is.
-/
theorem serve_connects_lazily_of_refused_client
    : let refused : Failure := .client ⟨"ConnectionFailure", "no server"⟩
      let misnamed : Failure := .client ⟨"InvalidName", "names cannot contain a dot"⟩
      let client : DatabaseClient Nat Nat :=
        { connect := fun _ _ => ⟨fun n => ⟨if n = 0 then .error refused else .ok n, n + 1, []⟩⟩
          selectDatabase := fun _ name =>
            match name with
            | .text "my.records" => .fail misnamed
            | _ => pure ()
          selectCollection := fun _ _ => pure ()
          updateOne := fun _ _ _ _ => pure ⟨.bool true, .ok (.int 1)⟩
          bulkWrite := fun _ _ _ => pure ⟨.bool true, .ok (.int 1)⟩
          find := fun _ _ _ => pure ⟨[], none⟩
          sort := fun cursor _ => pure cursor
          count := fun _ _ _ => pure (.int 0)
          ping := fun _ => pure ()
          close := fun _ => pure () }
      let c : Connector Nat Nat := ⟨.text "cluster", .text "records", .int 2000, client, .info⟩
      let search : Request := .find (.text "task") ⟨.null, .null, .null, .null, .null⟩
      let kept (n : Nat) : Connection Nat := ⟨some n, some ⟨n, .text "records"⟩⟩
      let visits := c.serve [search, search, .ping, .close, .database] (⟨none, none⟩, 0)
      let handed := c.serve [.ping, search] (⟨some 7, none⟩, 0)
      let dotted : Connector Nat Nat := { c with database := .text "my.records" }
      let unnamed := dotted.serve [.database, .ping] (⟨none, none⟩, 1)
      (visits.map fun v => v.dials) = [[.error refused], [.ok 1], [], [], [.ok 2]]
      ∧ (visits.map fun v => v.after) = [⟨none, none⟩, kept 1, kept 1, ⟨none, none⟩, kept 2]
      ∧ ((∀ v ∈ visits.take 3, ¬ v.Closes) ∧ ((visits.take 3).flatMap Visit.made).length ≤ 1)
      ∧ ((∀ v ∈ handed, ¬ v.Closes) ∧ ∀ v ∈ handed, v.dials = [])
      ∧ (unnamed.map fun v => (v.dials, v.result, v.after))
        = [([.ok 1], .error misnamed, ⟨some 1, none⟩), ([], .ok (), ⟨some 1, none⟩)] := by
  intro refused misnamed client c search kept visits handed dotted unnamed
  have served : visits
      = [c.visit search (⟨none, none⟩, 0), c.visit search (⟨none, none⟩, 1),
          c.visit .ping (kept 1, 2), c.visit .close (kept 1, 2),
          c.visit .database (⟨none, none⟩, 2)] := by
    have first : ((c.perform search).run (⟨none, none⟩, 0)).state = (⟨none, none⟩, 1) := rfl
    have second : ((c.perform search).run (⟨none, none⟩, 1)).state = (kept 1, 2) := rfl
    have third : ((c.perform .ping).run (kept 1, 2)).state = (kept 1, 2) := rfl
    have fourth : ((c.perform .close).run (kept 1, 2)).state = (⟨none, none⟩, 2) := rfl
    simp only [visits, serve, first, second, third, fourth]
  have open_ : ∀ v ∈ visits.take 3, ¬ v.Closes := by
    simp [visits, serve, visit, Visit.Closes, search]
  have openHanded : ∀ v ∈ handed, ¬ v.Closes := by
    simp [handed, serve, visit, Visit.Closes, search]
  have once := (c.serve_connects_lazily none 0 _).2.1 _ (List.take_prefix 3 visits).isInfix open_
  have never := (c.serve_connects_lazily (some 7) 0 _).2.2 _ List.prefix_rfl openHanded nofun
  refine ⟨?_, ?_, ⟨open_, once⟩, ⟨openHanded, never⟩, rfl⟩
  · rw [served]
    rfl
  · rw [served]
    rfl

end Connector

end DocGateway
