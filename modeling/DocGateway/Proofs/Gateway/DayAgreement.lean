import DocGateway.Proofs.Calendar.Instants
import DocGateway.Proofs.Filter.DayMacros
import DocGateway.Proofs.Gateway.Whitelisting
import DocGateway.Proofs.Query.DayRanges

/-!
Whether what was written today is found as written today.

Updates are stamped with the clock's moment in UTC, while the day macro stands for the clock's own
day. Both agree exactly as long as the clock's day is the day in UTC, which holds of the system's
clock and of clocks frozen at a moment without an offset.
-/

namespace DocGateway

variable {σ : Type}

-----------------------------------------------------------------------------------------
-- Clocks
-----------------------------------------------------------------------------------------

namespace Clock

/-- The clocks that can be made from a moment: one frozen at it, or the system's clock then. -/
inductive MadeFrom (m : Moment) : Clock → Prop
  | fixed : MadeFrom m (.fixedAt m)
  | system : MadeFrom m (.system m)

/-- Such a clock stamps with the moment in UTC. Its day is the moment's own day if it is frozen, and
the day in UTC if it is the system's.
-/
theorem MadeFrom.now {clock : Clock} {m u : Moment} (made : clock.MadeFrom m) (valid : m.Valid)
    (utc : m.assumeUtc.toUtc? = some u)
    : ∃ now,
        clock.now? = some now
        ∧ now.Valid
        ∧ now.stamp? = some (String.ofList u.stampChars)
        ∧ (clock = .fixedAt m ∧ now.date = m.date ∨ clock = .system m ∧ now.date = u.date) := by
  cases made with
  | fixed =>
    refine ⟨m.assumeUtc, rfl, valid.assumeUtc, ?_, .inl ⟨rfl, m.date_assumeUtc⟩⟩
    simp [Moment.stamp?, utc]
  | system =>
    obtain ⟨now, read, date, same⟩
        : ∃ now, m.toUtc? = some now ∧ now.date = u.date ∧ now.stampChars = u.stampChars := by
      cases given : m.offset with
      | none =>
        cases (valid.toUtc?_assumeUtc (.inl given)).symm.trans utc
        exact ⟨m, valid.toUtc?_of_utc (.inl given), m.date_assumeUtc.symm,
          m.stampChars_assumeUtc.symm⟩
      | some offset =>
        have assumed : m.assumeUtc = m := by simp [Moment.assumeUtc, given]
        exact ⟨u, assumed ▸ utc, rfl, rfl⟩
    obtain ⟨validNow, _, inUtc⟩ := valid.toUtc?_spec read
    refine ⟨now, read, validNow, ?_, .inr ⟨rfl, date⟩⟩
    simp [Moment.stamp?, validNow.toUtc?_of_utc inUtc, same]

end Clock

-----------------------------------------------------------------------------------------
-- The filter for what was updated today
-----------------------------------------------------------------------------------------

def updatedToday : Filter.Source :=
  .value (Value.fields
    [("fieldId", .text "updatedAt"), ("operator", .text "="), ("value", .text Filter.todayMacro)])

/-- On the standard stamp fields the filter becomes the range of the clock's day. -/
theorem compile_updatedToday {ctx : Filter.Context} {day : Date} {r : DayRange}
    (stampFields : ctx.stampFields = Settings.default.stampFields)
    (today : ctx.clock.today = .ok day) (valid : day.Valid)
    (range : DayRange.of? "updatedAt" day = some r)
    : updatedToday.compile ctx = .ok r.toQuery := by
  let l : Filter.Leaf := ⟨"updatedAt", "=", some (.text Filter.todayMacro), none, none⟩
  have taken : updatedToday.normalize = .ok (.node (.leaf l)) := rfl
  have undated : l.Undated := rfl
  have isToday : l.value.same (.text Filter.todayMacro) = true := rfl
  have operand : Filter.resolveDay l ctx.clock = .ok (.text day.text) := by
    rw [undated.operand, if_pos isToday, Filter.todayOperand, Filter.currentDay, today]
    rfl
  have compares : Filter.comparesDay ctx l .equal (.text day.text) = true := by
    rw [Filter.comparesDay, stampFields]
    rfl
  have reads : Filter.dayOf? (.text day.text) = some day := valid.readPrefix?_text
  have compiled : Filter.compileLeaf ctx l = .ok r.toQuery :=
    Filter.compileWithOperand_of_day operand compares reads range
  exact Filter.Source.compile_of_leaf taken compiled

-----------------------------------------------------------------------------------------
-- Stamps of updates
-----------------------------------------------------------------------------------------

/-- With the standard audit fields, updates that are sent carry the clock's moment in UTC. -/
theorem Coalescer.stamp_of_mem_updatesFor {c : Coalescer σ} {user : Value} {ops : List Operation}
    {stamp : String} (stamps : c.Stamps user (c.noted user)) (hasUser : user.truthy = true)
    (time : c.clock.now?.bind Moment.stamp? = some stamp)
    (timeField : c.preferences.updatedAtField = .text "updatedAt")
    (userField : c.preferences.updatedByField = .text "updatedBy")
    {f : FlatUpdate} (member : f ∈ c.updatesFor user ops)
    : f.updates.get? "updatedAt" = some (.text stamp) := by
  obtain ⟨time', names, time'_eq, names_eq, noted⟩ := stamps.audited hasUser
  cases time.symm.trans time'_eq
  cases (AuditFields.read_texts c.preferences timeField userField).symm.trans names_eq
  obtain ⟨f, _, rfl⟩ := List.mem_map.1 member
  simp only [noted]
  rw [OrderedMap.get?_set, OrderedMap.get?_set]
  rfl

namespace Gateway

/-- What is written with a user is found as written today exactly if the clock's day is the day in
UTC: always for the system's clock, and for a frozen clock if its moment has no offset.
-/
theorem stamp_matches_today_iff {g : Gateway σ} {m u : Moment} (made : g.clock.MadeFrom m)
    (valid : m.Valid) (utc : m.assumeUtc.toUtc? = some u)
    (utcYear : 1000 ≤ u.date.year ∧ u.date.year ≤ 9998) (localYear : m.date.year ≤ 9998)
    (stampFields : g.stampFields = Settings.default.stampFields)
    (timeField : g.preferences.updatedAtField = .text "updatedAt")
    (userField : g.preferences.updatedByField = .text "updatedBy") (caller : Option Identity)
    : ∃ day q,
        (g.clock = .fixedAt m ∧ day = m.date ∨ g.clock = .system m ∧ day = u.date)
        ∧ (m.offset = none ∨ m.offset = some 0 → m.date = u.date)
        ∧ g.compileFilter updatedToday caller = .ok q
        ∧ ∀ (tx : Transaction) (s : σ),
            tx.isProcessed = false
            → tx.user.truthy = true
            → (∃ id, tx.id = .text id)
            → ∀ e ∈ g.toCoalescer.exchanges tx s,
                e.isStorage = true
                → ∃ flat answer,
                    e = .ofSend flat answer
                    ∧ ∀ f ∈ flat,
                        f.updates.get? "updatedAt" = some (.text (String.ofList u.stampChars))
                        ∧ (Matcher.texts.accepts q.toValue f.updates ↔ day = u.date) := by
  obtain ⟨now, read, validNow, stamp, own⟩ := made.now valid utc
  obtain ⟨validUtc, _, _⟩ := valid.assumeUtc.toUtc?_spec utc
  have early : now.date.year ≤ 9998 := by
    rcases own with ⟨_, date⟩ | ⟨_, date⟩
    · rw [date]
      exact localYear
    · rw [date]
      exact utcYear.2
  have notLast : now.date ≠ Date.last := by
    intro last
    rw [last] at early
    exact absurd early (by decide)
  obtain ⟨next, after⟩ : ∃ next, now.date.addDays? 1 = some next :=
    Option.ne_none_iff_exists'.1 (mt validNow.1.addDays?_one_eq_none_iff.1 notLast)
  have range : DayRange.of? "updatedAt" now.date
      = some ⟨"updatedAt", now.date.text, next.text⟩ :=
    DayRange.of?_eq_some_iff.2 ⟨next, after, rfl⟩
  have today : g.clock.today = .ok now.date := by
    simp [Clock.today, Clock.now, read, Except.map]
  refine ⟨now.date, _, own, ?_, compile_updatedToday stampFields today validNow.1 range, ?_⟩
  · intro inUtc
    cases (valid.toUtc?_assumeUtc inUtc).symm.trans utc
    exact m.date_assumeUtc.symm
  · intro tx s fresh hasUser named e member storage
    obtain ⟨id, named⟩ := named
    obtain ⟨stamps, answer, sends⟩ := Coalescer.storage_of_mem_exchanges fresh named member storage
    refine ⟨_, answer, sends, fun f member => ?_⟩
    have time : g.clock.now?.bind Moment.stamp? = some (String.ofList u.stampChars) := by
      rw [read]
      exact stamp
    have found :=
      Coalescer.stamp_of_mem_updatesFor stamps hasUser time timeField userField member
    have given : "updatedAt" ∉ ["$and", "$or"] := by decide
    refine ⟨found, ?_⟩
    rw [DayRange.texts_accepts_iff given found]
    exact DayRange.covers_stamp_iff validNow.1 range validUtc.1 utcYear.1

/-- A gateway with the standard settings whose storage takes every update. -/
def accepting (clock : Clock) : Gateway Unit where
  driver := ⟨"Accepting", fun _ _ _ => pure (.bool true), fun _ => pure (.bool true), none⟩
  hooks := .silent
  clock := clock
  preferences := .standard
  level := .info
  stampFields := Settings.default.stampFields

/-- A transaction of one user that writes one field of one record. -/
def oneWrite : Transaction :=
  { Transaction.new .standard (.text "t") (.text "ann") .null true with
    operations := [⟨"task", "t1", .ofList [("name", .text "Apollo")]⟩] }

/-- The last moment of a leap day, without an offset. -/
def lastOfLeapDay : Moment := ⟨⟨2024, 2, 29⟩, 23, 59, 59, 999999, none⟩

theorem stamp_matches_today_iff_of_last_moment
    : let g := accepting (.fixedAt lastOfLeapDay)
      ∃ q,
        g.compileFilter updatedToday none = .ok q
        ∧ ∃ e ∈ g.toCoalescer.exchanges oneWrite (), ∃ flat answer,
            e = .ofSend flat answer
            ∧ ∀ f ∈ flat,
                f.updates.get? "updatedAt" = some (.text "2024-02-29T23:59:59.999Z")
                ∧ Matcher.texts.accepts q.toValue f.updates := by
  have valid : lastOfLeapDay.Valid := by decide
  have utc := valid.toUtc?_assumeUtc (.inl rfl)
  obtain ⟨day, q, own, same, compiled, agrees⟩ :=
    (accepting (.fixedAt lastOfLeapDay)).stamp_matches_today_iff .fixed valid utc (by decide)
      (by decide) rfl rfl rfl none
  obtain ⟨e, member, storage⟩
      : ∃ e ∈ (accepting (.fixedAt lastOfLeapDay)).toCoalescer.exchanges oneWrite (),
          e.isStorage = true :=
    ⟨_, List.mem_cons_self, rfl⟩
  obtain ⟨flat, answer, sends, each⟩ := agrees oneWrite () rfl rfl ⟨_, rfl⟩ e member storage
  refine ⟨q, compiled, e, member, flat, answer, sends, fun f inFlat => ?_⟩
  obtain ⟨stamp, matches_iff⟩ := each f inFlat
  have today : day = ⟨2024, 2, 29⟩ := by
    rcases own with ⟨_, date⟩ | ⟨_, date⟩
    · exact date
    · exact date
  exact ⟨stamp, matches_iff.2 today⟩

/-- Half an hour before midnight, five hours behind UTC. -/
def eveningBehindUtc : Moment := ⟨⟨2024, 1, 5⟩, 23, 30, 0, 0, some (-18000000000)⟩

/-- On a clock that is frozen with an offset, what is written now may not be found as written today.
-/
theorem stamp_misses_today_of_offset
    : let g := accepting (.fixedAt eveningBehindUtc)
      let r : DayRange := ⟨"updatedAt", "2024-01-05", "2024-01-06"⟩
      eveningBehindUtc.Valid
      ∧ g.compileFilter updatedToday none = .ok r.toQuery
      ∧ ∃ e ∈ g.toCoalescer.exchanges oneWrite (), ∃ f answer,
          e = .ofSend [f] answer
          ∧ f.updates.get? "updatedAt" = some (.text "2024-01-06T04:30:00.000Z")
          ∧ ¬ Matcher.texts.accepts r.toQuery.toValue f.updates := by
  refine ⟨by decide, rfl, ?_⟩
  have time : (Clock.fixedAt eveningBehindUtc).now?.bind Moment.stamp?
      = some "2024-01-06T04:30:00.000Z" := rfl
  obtain ⟨e, member, storage⟩
      : ∃ e ∈ (accepting (.fixedAt eveningBehindUtc)).toCoalescer.exchanges oneWrite (),
          e.isStorage = true :=
    ⟨_, List.mem_cons_self, rfl⟩
  obtain ⟨stamps, answer, sends⟩ := Coalescer.storage_of_mem_exchanges rfl rfl member storage
  have found (f : FlatUpdate)
      (sent
        : f ∈ (accepting (.fixedAt eveningBehindUtc)).updatesFor oneWrite.user
          oneWrite.operations)
      : f.updates.get? "updatedAt" = some (.text "2024-01-06T04:30:00.000Z") :=
    Coalescer.stamp_of_mem_updatesFor stamps rfl time rfl rfl sent
  obtain ⟨f, single⟩
      : ∃ f, (accepting (.fixedAt eveningBehindUtc)).updatesFor oneWrite.user oneWrite.operations
          = [f] :=
    ⟨_, rfl⟩
  have given : "updatedAt" ∉ ["$and", "$or"] := by decide
  have stamp := found f (single ▸ List.mem_singleton.2 rfl)
  refine ⟨e, member, f, answer, single ▸ sends, stamp, ?_⟩
  rw [DayRange.texts_accepts_iff given stamp]
  decide

end Gateway

end DocGateway
