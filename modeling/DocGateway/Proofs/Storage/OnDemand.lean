import DocGateway.Proofs.Except
import DocGateway.Proofs.OrderedMap.Merging
import DocGateway.Proofs.Storage.ClientCalls
import DocGateway.Proofs.Storage.Telling

/-!
Clients and databases on demand.

A request that needs a client or the database gets it first, and whatever it does afterwards leaves
the connection alone. What a request does to the connection is therefore what getting did
(`Connector.Gets`): the server is dialled exactly if a client is needed, none is kept and it is
known where to connect to.
-/

namespace DocGateway

variable {κ σ α β : Type}

-----------------------------------------------------------------------------------------
-- Dials
-----------------------------------------------------------------------------------------

/-- The outcomes of dials, which are attempts to make a client, in order. -/
abbrev Dials (κ : Type) : Type := List (Except Failure κ)

/-- A server's state with the dials that were made. -/
abbrev Dialled (κ σ : Type) : Type := σ × Dials κ

/-- Does an action and adds it to the dials. -/
def Action.dialling (x : Action σ κ) : Action (Dialled κ σ) κ :=
  ⟨fun t => ⟨(x.run t.1).result, ((x.run t.1).state, t.2 ++ [(x.run t.1).result]), (x.run t.1).log⟩⟩

@[simp]
theorem Action.run_dialling (x : Action σ κ) (t : Dialled κ σ)
    : x.dialling.run t
      = ⟨(x.run t.1).result, ((x.run t.1).state, t.2 ++ [(x.run t.1).result]), (x.run t.1).log⟩ :=
  rfl

def DatabaseClient.dialled (d : DatabaseClient κ σ) : DatabaseClient κ (Dialled κ σ) where
  connect uri timeout := (d.connect uri timeout).dialling
  selectDatabase client name := (d.selectDatabase client name).beside
  selectCollection database name := (d.selectCollection database name).beside
  updateOne database collection selector change :=
    (d.updateOne database collection selector change).beside
  bulkWrite database collection writes := (d.bulkWrite database collection writes).beside
  find database collection search := (d.find database collection search).beside
  sort cursor directives := (d.sort cursor directives).beside
  count database collection query := (d.count database collection query).beside
  ping client := (d.ping client).beside
  close client := (d.close client).beside

/-- The connector with its dials counted. -/
def Connector.dialled (c : Connector κ σ) : Connector κ (Dialled κ σ) where
  uri := c.uri
  database := c.database
  timeout := c.timeout
  client := c.client.dialled
  level := c.level

/-- An outcome without the dials. -/
def Outcome.undialled (o : Outcome (Connection κ × Dialled κ σ) α)
    : Outcome (Connection κ × σ) α :=
  ⟨o.result, (o.state.1, o.state.2.1), o.log⟩

@[simp]
theorem Outcome.undialled_mk (r : Except Failure α) (s : Connection κ × Dialled κ σ)
    (log : List LogEntry)
    : undialled ⟨r, s, log⟩ = ⟨r, (s.1, s.2.1), log⟩ := rfl

@[simp]
theorem Outcome.undialled_after (log : List LogEntry)
    (o : Outcome (Connection κ × Dialled κ σ) α)
    : (o.after log).undialled = o.undialled.after log := rfl

-----------------------------------------------------------------------------------------
-- Connections
-----------------------------------------------------------------------------------------

/-- The database that is kept is the one of this name, of the client that is kept. -/
def Connection.Sound (name : Value) (k : Connection κ) : Prop :=
  ∀ d, k.database? = some d → k.client? = some d.client ∧ d.name = name

/-- What a request gets before it does anything else. -/
inductive Need where
  | nothing
  | client
  | database

/-- What is needed is kept already. -/
def Need.Met : Need → Connection κ → Prop
  | nothing, _ => True
  | client, k => k.client?.isSome
  | database, k => k.database?.isSome

namespace Connector

/-- A client is to be made, and it is known where to connect to. -/
def dialsForClient (c : Connector κ σ) (k : Connection κ) : Bool :=
  k.client?.isNone && c.uri.truthy

/-- A client is to be made for what is needed. -/
def dials (c : Connector κ σ) (k : Connection κ) : Need → Bool
  | .nothing => false
  | .client => c.dialsForClient k
  | .database => k.database?.isNone && c.database.truthy && c.dialsForClient k

/-- The setting that is missing for a client. -/
def lacksForClient? (c : Connector κ σ) (k : Connection κ) : Option String :=
  if k.client?.isNone && !c.uri.truthy then some "MONGO_URI" else none

/-- The setting that is missing for what is needed. -/
def lacks? (c : Connector κ σ) (k : Connection κ) : Need → Option String
  | .nothing => none
  | .client => c.lacksForClient? k
  | .database =>
    if k.database?.isSome then none
    else if c.database.truthy then c.lacksForClient? k
    else some "MONGO_DB_NAME"

/-- What getting something on demand does: to a connection, which dials it makes for it, and with
which result. A client that cannot be made or a missing setting leaves the connection as it was; a
database whose name is refused leaves the client that was made for it.
-/
structure Gets (c : Connector κ σ) (need : Need) (before : Connection κ) (dials : Dials κ)
    (result : Except Failure α) (after : Connection κ)
    : Prop where
  sound : before.Sound c.database → after.Sound c.database
  kept : ∀ client, before.client? = some client → after.client? = some client
  met : need.Met before → after = before
  dialled : dials.length = if c.dials before need then 1 else 0
  made : ∀ client, .ok client ∈ dials → after.client? = some client
  refused : ∀ f, .error f ∈ dials → result = .error (connectFailure f) ∧ after = before
  lacking
    : ∀ name, c.lacks? before need = some name
      → result = .error (missing name) ∧ after = before

theorem dials_of_met {c : Connector κ σ} {need : Need} {k : Connection κ} (met : need.Met k)
    : c.dials k need = false := by
  cases need with
  | nothing => rfl
  | client => simp [dials, dialsForClient, Option.isNone_eq_false_iff.2 met]
  | database => simp [dials, Option.isNone_eq_false_iff.2 met]

namespace Gets

variable {c : Connector κ σ} {need : Need} {before after : Connection κ} {dials : Dials κ}

/-- Getting that comes to no client leaves the connection as it was. -/
theorem stay {result : Except Failure α}
    (dialled : dials.length = if c.dials before need then 1 else 0)
    (notMade : ∀ client, .ok client ∉ dials)
    (refused : ∀ f, .error f ∈ dials → result = .error (connectFailure f))
    (lacking : ∀ name, c.lacks? before need = some name → result = .error (missing name))
    : c.Gets need before dials result before where
  sound := id
  kept _ := id
  met _ := rfl
  dialled := dialled
  made client made := absurd made (notMade client)
  refused f failed := ⟨refused f failed, rfl⟩
  lacking name lacks := ⟨lacking name lacks, rfl⟩

/-- Nothing is done where nothing is to be dialled and nothing is missing. -/
theorem keep (noDial : c.dials before need = false) (complete : c.lacks? before need = none)
    (result : Except Failure α)
    : c.Gets need before [] result before := by
  refine .stay ?_ ?_ ?_ ?_
  · simp [noDial]
  · simp
  · simp
  · simp [complete]

theorem lack {name : String} (lacks : c.lacks? before need = some name)
    (noDial : c.dials before need = false)
    : c.Gets need before [] (.error (missing name) : Except Failure α) before := by
  refine .stay ?_ ?_ ?_ ?_
  · simp [noDial]
  · simp
  · simp
  · intro name' lacks'
    cases lacks.symm.trans lacks'
    rfl

theorem refuse (dial : c.dials before need = true) (complete : c.lacks? before need = none)
    (f : Failure)
    : c.Gets need before [.error f] (.error (connectFailure f) : Except Failure α) before := by
  refine .stay ?_ ?_ ?_ ?_
  · simp [dial]
  · simp
  · simp
  · simp [complete]

theorem make (absent : before.client? = none) (set : c.uri.truthy = true) (client : κ)
    (result : Except Failure α)
    : c.Gets .client before [.ok client] result ⟨some client, before.database?⟩ where
  sound sound d kept := absurd (absent.symm.trans (sound d kept).1) nofun
  kept client' kept := absurd (absent.symm.trans kept) nofun
  met met := by simp [Need.Met, absent] at met
  dialled := by simp [Connector.dials, dialsForClient, absent, set]
  made client' made := by
    cases List.mem_singleton.1 made
    rfl
  refused f failed := nomatch List.mem_singleton.1 failed
  lacking name lacks := by simp [lacks?, lacksForClient?, set] at lacks

/-- A database is got by getting the client, which fails in the same way. -/
theorem forDatabase {r : Except Failure α} (gets : c.Gets .client before dials r after)
    (absent : before.database? = none) (set : c.database.truthy = true)
    : c.Gets .database before dials r after where
  sound := gets.sound
  kept := gets.kept
  met met := by simp [Need.Met, absent] at met
  dialled := by
    have same : c.dials before .database = c.dials before .client := by
      simp [Connector.dials, absent, set]
    rw [same]
    exact gets.dialled
  made := gets.made
  refused := gets.refused
  lacking name lacks := gets.lacking name (by simpa [lacks?, absent, set] using lacks)

/-- With the client at hand the database is selected. -/
theorem select {a : α} (gets : c.Gets .client before dials (.ok a) after)
    (absent : before.database? = none) (set : c.database.truthy = true) {client : κ}
    (got : after.client? = some client) (result : Except Failure β)
    : c.Gets .database before dials result ⟨after.client?, some ⟨client, c.database⟩⟩ where
  sound _ d selected := by
    cases selected
    exact ⟨got, rfl⟩
  kept := gets.kept
  met met := by simp [Need.Met, absent] at met
  dialled := (gets.forDatabase absent set).dialled
  made := gets.made
  refused f failed := nomatch (gets.refused f failed).1
  lacking name lacks := nomatch ((gets.forDatabase absent set).lacking name lacks).1

/-- Whatever follows keeps to what getting did, as long as it tells of the same failures. -/
theorem retell {r : Except Failure α} {r' : Except Failure β}
    (gets : c.Gets need before dials r after)
    (same : ∀ f, (∀ e, f ≠ .client e) → r = .error f → r' = .error f)
    : c.Gets need before dials r' after where
  sound := gets.sound
  kept := gets.kept
  met := gets.met
  dialled := gets.dialled
  made := gets.made
  refused f failed := by
    obtain ⟨told, unchanged⟩ := gets.refused f failed
    exact ⟨same _ (connectFailure_own f) told, unchanged⟩
  lacking name lacks := by
    obtain ⟨told, unchanged⟩ := gets.lacking name lacks
    exact ⟨same _ nofun told, unchanged⟩

end Gets

-----------------------------------------------------------------------------------------
-- Requests begin with getting
-----------------------------------------------------------------------------------------

/-- The first action is the second one, and where what is needed is kept, it neither dials nor
changes the connection.
-/
def Keeps (need : Need) (x : Action (Connection κ × Dialled κ σ) α)
    (y : Action (Connection κ × σ) α)
    : Prop :=
  ∀ s, need.Met s.1
    → (x.run s).undialled = y.run (s.1, s.2.1)
      ∧ (x.run s).state.1 = s.1
      ∧ (x.run s).state.2.2 = s.2.2

/-- The first action is the second one, and to the connection it does what getting does. -/
def Opens (c : Connector κ σ) (need : Need) (x : Action (Connection κ × Dialled κ σ) α)
    (y : Action (Connection κ × σ) α)
    : Prop :=
  ∀ s, (x.run s).undialled = y.run (s.1, s.2.1)
    ∧ (∃ dials,
        (x.run s).state.2.2 = s.2.2 ++ dials
        ∧ c.Gets need s.1 dials (x.run s).result (x.run s).state.1)
    ∧ ∀ a, (x.run s).result = .ok a → need.Met (x.run s).state.1

variable {c : Connector κ σ} {need : Need}

section

variable {x : Action (Connection κ × Dialled κ σ) α} {y : Action (Connection κ × σ) α}
  {f : α → Action (Connection κ × Dialled κ σ) β} {g : α → Action (Connection κ × σ) β}

namespace Keeps

theorem ofExcept (r : Except Failure α)
    : Keeps (κ := κ) (σ := σ) need (.ofExcept r) (.ofExcept r) :=
  fun _ _ => ⟨rfl, rfl, rfl⟩

theorem pure (a : α) : Keeps (κ := κ) (σ := σ) need (pure a) (pure a) :=
  fun _ _ => ⟨rfl, rfl, rfl⟩

theorem note (level : LogLevel) (text : String)
    : Keeps (κ := κ) (σ := σ) need (note level text) (note level text) :=
  fun _ _ => ⟨rfl, rfl, rfl⟩

theorem beside (need : Need) (z : Action σ α)
    : Keeps (κ := κ) need z.beside.onSecond z.onSecond :=
  fun _ _ => ⟨rfl, rfl, rfl⟩

theorem attempt_beside (need : Need) (z : Action σ α)
    : Keeps (κ := κ) need z.beside.attempt.onSecond z.attempt.onSecond :=
  fun _ _ => ⟨rfl, rfl, rfl⟩

theorem bind (first : Keeps need x y) (rest : ∀ a, Keeps need (f a) (g a))
    : Keeps need (x >>= f) (y >>= g) := by
  intro s met
  obtain ⟨same, connection, dials⟩ := first s met
  rw [Action.run_bind, Action.run_bind, ← same]
  rcases outcome : x.run s with ⟨failure | a, s', log⟩
  · rw [outcome] at connection dials
    exact ⟨rfl, connection, dials⟩
  · simp only [outcome] at connection dials
    obtain ⟨same', connection', dials'⟩ := rest a s' (connection ▸ met)
    refine ⟨?_, connection'.trans connection, dials'.trans dials⟩
    simp [same']

end Keeps

namespace Opens

theorem bind (first : c.Opens need x y) (rest : ∀ a, Keeps need (f a) (g a))
    : c.Opens need (x >>= f) (y >>= g) := by
  intro s
  obtain ⟨same, ⟨dials, made, gets⟩, met⟩ := first s
  rw [Action.run_bind, Action.run_bind, ← same]
  rcases outcome : x.run s with ⟨failure | a, s', log⟩
  · simp only [outcome] at made gets
    exact ⟨rfl, ⟨dials, made, gets.retell fun _ _ told => by cases told; rfl⟩, nofun⟩
  · simp only [outcome] at made gets met
    obtain ⟨same', connection, dials'⟩ := rest a s' (met a rfl)
    refine ⟨by simp [same'], ⟨dials, dials'.trans made, ?_⟩, fun _ _ => ?_⟩
    · exact connection.symm ▸ gets.retell nofun
    · exact connection.symm ▸ met a rfl

/-- Telling of failures of calls spares the failures to get something. -/
theorem tell (opens : c.Opens need x y) (call : String) (model : Value)
    (details : List (String × Value))
    : c.Opens need (x.mapFailure (callFailure call model details))
        (y.mapFailure (callFailure call model details)) := by
  intro s
  obtain ⟨same, ⟨dials, made, gets⟩, met⟩ := opens s
  refine ⟨?_, ⟨dials, made, gets.retell fun f own told => ?_⟩, fun a ok => ?_⟩
  · rw [Action.run_mapFailure, Action.run_mapFailure, ← same]
    rfl
  · rw [Action.run_mapFailure, told, Except.mapError_error, callFailure_of_own own]
  · exact met a (Except.mapError_eq_ok.1 ok)

theorem discard (opens : c.Opens need x y) : c.Opens need (discard x) (discard y) :=
  opens.bind fun _ => .pure ()

/-- What needs no more than is kept leaves the connection alone. -/
theorem keeps (opens : c.Opens need x y) : Keeps need x y := by
  intro s met
  obtain ⟨same, ⟨dials, made, gets⟩, _⟩ := opens s
  have unchanged : dials = [] := by simpa [dials_of_met met] using gets.dialled
  exact ⟨same, gets.met met, by simpa [unchanged] using made⟩

end Opens

theorem Keeps.opens (keeps : Keeps .nothing x y) : c.Opens .nothing x y := by
  intro s
  obtain ⟨same, connection, dials⟩ := keeps s trivial
  refine ⟨same, ⟨[], by simpa using dials, ?_⟩, fun _ _ => trivial⟩
  rw [connection]
  exact .keep rfl rfl _

end

-----------------------------------------------------------------------------------------
-- Getting the client and the database
-----------------------------------------------------------------------------------------

section

variable {k : Connection κ} {t : σ}

theorem run_getClient_of_some {client : κ} (kept : k.client? = some client)
    : c.getClient.run (k, t) = ⟨.ok client, (k, t), []⟩ := by
  simp [getClient, kept]

theorem run_getClient_of_unset (absent : k.client? = none) (unset : c.uri.truthy = false)
    : c.getClient.run (k, t) = ⟨.error (missing "MONGO_URI"), (k, t), []⟩ := by
  simp [getClient, absent, unset]

theorem run_getClient_of_refused (absent : k.client? = none) (set : c.uri.truthy = true)
    {f : Failure} {t' : σ} {log : List LogEntry}
    (refused : (c.client.connect c.uri c.timeout).run t = ⟨.error f, t', log⟩)
    : c.getClient.run (k, t) = ⟨.error (connectFailure f), (k, t'), log⟩ := by
  simp [getClient, absent, set, refused, Except.mapError]

theorem run_getClient_of_made (absent : k.client? = none) (set : c.uri.truthy = true)
    {client : κ} {t' : σ} {log : List LogEntry}
    (made : (c.client.connect c.uri c.timeout).run t = ⟨.ok client, t', log⟩)
    : c.getClient.run (k, t)
      = ⟨.ok client, (⟨some client, k.database?⟩, t'),
          log ++ [⟨c.level, LogSource.connection, "MongoDB client initialized."⟩]⟩ := by
  simp [getClient, absent, set, made, Except.mapError, Except.map]

theorem run_getDatabase_of_some {database : Database κ} (kept : k.database? = some database)
    : c.getDatabase.run (k, t) = ⟨.ok database, (k, t), []⟩ := by
  simp [getDatabase, kept]

theorem run_getDatabase_of_unset (absent : k.database? = none) (unset : c.database.truthy = false)
    : c.getDatabase.run (k, t) = ⟨.error (missing "MONGO_DB_NAME"), (k, t), []⟩ := by
  simp [getDatabase, absent, unset]

theorem run_getDatabase_of_none (absent : k.database? = none) (set : c.database.truthy = true)
    : c.getDatabase.run (k, t)
      = (c.getClient.run (k, t)).andThen fun client s =>
          ((c.client.selectDatabase client c.database).onSecond.run s).andThen fun _ s =>
            ⟨.ok ⟨client, c.database⟩, (⟨s.1.client?, some ⟨client, c.database⟩⟩, s.2),
              [⟨c.level, LogSource.connection,
                s!"MongoDB database '{c.database.plain}' selected."⟩]⟩ := by
  simp only [getDatabase, Action.run_bind, Action.run_current, Outcome.andThen_ok, absent, set,
    if_true]
  rfl

end

theorem opens_getClient : c.Opens .client c.dialled.getClient c.getClient := by
  rintro ⟨k, t, past⟩
  cases kept : k.client? with
  | some client =>
    rw [run_getClient_of_some kept, run_getClient_of_some kept]
    refine ⟨rfl, ⟨[], by simp, .keep ?_ ?_ _⟩, fun _ _ => ?_⟩
    · simp [dials, dialsForClient, kept]
    · simp [lacks?, lacksForClient?, kept]
    · simp [Need.Met, kept]
  | none =>
    cases set : c.uri.truthy with
    | false =>
      have unset : c.dialled.uri.truthy = false := set
      rw [run_getClient_of_unset kept set, run_getClient_of_unset kept unset]
      refine ⟨rfl, ⟨[], by simp, .lack ?_ ?_⟩, nofun⟩
      · simp [lacks?, lacksForClient?, kept, set]
      · simp [dials, dialsForClient, set]
    | true =>
      have set' : c.dialled.uri.truthy = true := set
      have dial : c.dials k .client = true := by simp [dials, dialsForClient, kept, set]
      rcases dialled : (c.client.connect c.uri c.timeout).run t with ⟨f | client, t', log⟩
      · have dialled' : (c.dialled.client.connect c.dialled.uri c.dialled.timeout).run (t, past)
            = ⟨.error f, (t', past ++ [.error f]), log⟩ := by
          simp [Connector.dialled, DatabaseClient.dialled, dialled]
        rw [run_getClient_of_refused kept set dialled, run_getClient_of_refused kept set' dialled']
        refine ⟨rfl, ⟨[.error f], rfl, .refuse dial ?_ f⟩, nofun⟩
        simp [lacks?, lacksForClient?, set]
      · have dialled' : (c.dialled.client.connect c.dialled.uri c.dialled.timeout).run (t, past)
            = ⟨.ok client, (t', past ++ [.ok client]), log⟩ := by
          simp [Connector.dialled, DatabaseClient.dialled, dialled]
        rw [run_getClient_of_made kept set dialled, run_getClient_of_made kept set' dialled']
        exact ⟨rfl, ⟨[.ok client], rfl, .make kept set client _⟩, fun _ _ => rfl⟩

theorem client?_of_getClient {s s' : Connection κ × σ} {client : κ} {log : List LogEntry}
    (got : c.getClient.run s = ⟨.ok client, s', log⟩)
    : s'.1.client? = some client := by
  cases kept : s.1.client? with
  | some client' =>
    rw [run_getClient_of_some kept] at got
    cases got
    exact kept
  | none =>
    cases set : c.uri.truthy with
    | false =>
      rw [run_getClient_of_unset kept set] at got
      cases got
    | true =>
      rcases dialled : (c.client.connect c.uri c.timeout).run s.2 with ⟨f | client', t', log'⟩
      · rw [run_getClient_of_refused kept set dialled] at got
        cases got
      · rw [run_getClient_of_made kept set dialled] at got
        cases got
        rfl

theorem opens_getDatabase : c.Opens .database c.dialled.getDatabase c.getDatabase := by
  rintro ⟨k, t, past⟩
  cases kept : k.database? with
  | some database =>
    rw [run_getDatabase_of_some kept, run_getDatabase_of_some kept]
    refine ⟨rfl, ⟨[], by simp, .keep ?_ ?_ _⟩, fun _ _ => ?_⟩
    · simp [dials, kept]
    · simp [lacks?, kept]
    · simp [Need.Met, kept]
  | none =>
    cases set : c.database.truthy with
    | false =>
      have unset : c.dialled.database.truthy = false := set
      rw [run_getDatabase_of_unset kept set, run_getDatabase_of_unset kept unset]
      refine ⟨rfl, ⟨[], by simp, .lack ?_ ?_⟩, nofun⟩
      · simp [lacks?, kept, set]
      · simp [dials, set]
    | true =>
      have set' : c.dialled.database.truthy = true := set
      obtain ⟨same, ⟨dials, made, gets⟩, _⟩ := c.opens_getClient (k, t, past)
      rw [run_getDatabase_of_none kept set, run_getDatabase_of_none kept set', ← same]
      rcases got : c.dialled.getClient.run (k, t, past) with ⟨f | client, s', log⟩
      · simp only [got] at made gets
        refine ⟨rfl, ⟨dials, made, (gets.forDatabase kept set).retell fun f _ told => ?_⟩, nofun⟩
        cases told
        rfl
      · simp only [got] at made gets
        have client? := client?_of_getClient got
        have select : c.dialled.client.selectDatabase client c.dialled.database
            = (c.client.selectDatabase client c.database).beside := rfl
        simp only [Outcome.undialled_mk, Outcome.andThen_ok, Action.run_onSecond, select,
          Action.run_beside]
        rcases (c.client.selectDatabase client c.database).run s'.2.1 with ⟨f | _, t', log'⟩
        -- A refused name leaves the client that was got, and no database.
        · exact ⟨rfl, ⟨dials, made, (gets.forDatabase kept set).retell nofun⟩, nofun⟩
        · exact ⟨rfl, ⟨dials, made, gets.select kept set client? _⟩, fun _ _ => rfl⟩

theorem opens_getCollection (model : Value)
    : c.Opens .database (c.dialled.getCollection model) (c.getCollection model) :=
  opens_getDatabase.bind fun database =>
    (Keeps.beside _ (c.client.selectCollection database model)).bind fun _ => .pure database

theorem opens_ping : c.Opens .client c.dialled.ping c.ping := by
  refine opens_getClient.bind fun client => ?_
  refine (Keeps.attempt_beside _ _).bind fun answer => ?_
  rcases answer with f | _
  · cases f with
    | client e => exact (Keeps.note _ _).bind fun _ => .pure _
    | _ => exact .ofExcept _
  · exact .pure _

theorem opens_updateOne (model selector updates : Value)
    : c.Opens .database (c.dialled.updateOne model selector updates)
        (c.updateOne model selector updates) := by
  have call := (opens_getCollection (c := c) model).bind fun database =>
    Keeps.beside .database (c.client.updateOne database model selector (setting updates))
  refine (call.tell _ _ _).bind fun receipt => ?_
  refine (Keeps.ofExcept receipt.count).bind fun count => ?_
  exact (Keeps.note _ _).bind fun _ => .pure _

theorem opens_sendModel (model : String) (ops : List FlatUpdate)
    : c.Opens .database (c.dialled.sendModel model ops) (c.sendModel model ops) := by
  have call := (opens_getCollection (c := c) (.text model)).bind fun database =>
    Keeps.beside .database (c.client.bulkWrite database (.text model)
      (ops.map fun f => ⟨f.selector, setting f.updates.toValue⟩))
  refine (call.tell _ _ _).bind fun receipt => ?_
  refine (Keeps.ofExcept receipt.count).bind fun count => ?_
  exact (Keeps.note _ _).bind fun _ => .pure _

theorem keeps_order (cursor : Cursor) (sort : Value)
    : Keeps need (c.dialled.order cursor sort) (c.order cursor sort) := by
  unfold order
  split
  · split
    · exact .beside _ _
    · exact .ofExcept _
  · exact .pure _

theorem opens_find (model : Value) (search : DocumentSearch)
    : c.Opens .database (c.dialled.find model search) (c.find model search) := by
  have call := (opens_getCollection (c := c) model).bind fun database =>
    (Keeps.beside .database (c.client.find database model
      ⟨orEmpty search.query, search.projection, search.skip, search.limit⟩)).bind fun cursor =>
    (keeps_order (c := c) cursor search.sort).bind fun cursor =>
    Keeps.ofExcept (records cursor.documents cursor.failure?)
  exact (call.tell _ _ _).bind fun found => (Keeps.note _ _).bind fun _ => .pure _

theorem opens_countDocuments (model query : Value)
    : c.Opens .database (c.dialled.countDocuments model query) (c.countDocuments model query) :=
  ((opens_getCollection model).bind fun database =>
    .beside _ (c.client.count database model _)).tell _ _ _

theorem isEmpty_byModel {ops : List FlatUpdate} (nonempty : ops ≠ [])
    : (byModel ops).isEmpty = false := by
  let add (groups : OrderedMap String (List FlatUpdate)) (f : FlatUpdate) :=
    groups.update f.model [] (· ++ [f])
  have grows {groups} (ops : List FlatUpdate) (filled : groups.isEmpty = false)
      : (ops.foldl add groups).isEmpty = false := by
    induction ops generalizing groups with
    | nil => exact filled
    | cons f ops ih => exact ih (OrderedMap.isEmpty_set _ _ _)
  match ops with
  | f :: ops => exact grows ops (OrderedMap.isEmpty_set _ _ _)

/-- What updates of any models need; there may be none. -/
def needOf : List FlatUpdate → Need
  | [] => .nothing
  | _ :: _ => .database

/-- The first of several updates gets the database for all of them. -/
theorem opens_updateBulk (ops : List FlatUpdate)
    : c.Opens (needOf ops) (c.dialled.updateBulk ops) (c.updateBulk ops) := by
  have rest (es : List (String × List FlatUpdate))
      : Keeps .database (Action.collect (fun e => c.dialled.sendModel e.1 e.2) es)
          (Action.collect (fun e => c.sendModel e.1 e.2) es) := by
    induction es with
    | nil => exact .pure _
    | cons e es ih => exact (opens_sendModel e.1 e.2).keeps.bind fun _ => ih.bind fun _ => .pure _
  match ops with
  | [] => exact Keeps.opens ((Keeps.pure _).bind fun _ => .pure _)
  | f :: ops =>
    have nonempty := isEmpty_byModel (List.cons_ne_nil f ops)
    unfold updateBulk
    cases entries : (byModel (f :: ops)).entries with
    | nil => simp [OrderedMap.isEmpty, entries] at nonempty
    | cons e es =>
      have collected
          : c.Opens .database
              (Action.collect (fun e => c.dialled.sendModel e.1 e.2) (e :: es))
              (Action.collect (fun e => c.sendModel e.1 e.2) (e :: es)) :=
        (opens_sendModel e.1 e.2).bind fun _ => (rest es).bind fun _ => .pure _
      exact collected.bind fun _ => .pure _

end Connector

end DocGateway
