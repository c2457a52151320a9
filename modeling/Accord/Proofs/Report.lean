import Accord.Report

/-!
# `Accord.Proofs.Report`: the outcome and the events of a stage made of stages

A stage that goes on from the result of another one has the outcome of what comes after,
whatever the first one noted. Its events are those of both, in order.

`gather` goes through a list. How the list is cut does not matter to it: `gather_append` and
`gather_flatMap` say so for whole reports, with the events and the first error.

`Succeeds` says that a stage gives a result: a stage made of stages does when they all do.

`Notes` says of all events of a stage that they have a property.
-/

set_option autoImplicit false

namespace Accord.Report

variable {ε α β : Type}

/-- A result that is at hand is reported by `ok`. -/
@[simp]
theorem ofExcept_ok (value : α) : (ofExcept (.ok value) : Report ε α) = ok value :=
  rfl

/-- Two outcomes in a row give a result when the first one does and the second one does with it. -/
theorem bind_eq_ok_iff {outcome : Except ε α} {next : α → Except ε β} {result : β} :
    outcome >>= next = .ok result ↔ ∃ value, outcome = .ok value ∧ next value = .ok result := by
  cases outcome <;> simp [bind, Except.bind]

/-- After a result, the outcome is that of the next stage. -/
theorem outcome_andThen {report : Report ε α} {value : α} (h : report.outcome = .ok value)
    (next : α → Report ε β) : (report.andThen next).outcome = (next value).outcome := by
  rw [andThen, h]

/-- After an error there is no next stage. -/
theorem outcome_andThen_error {report : Report ε α} {error : ε} (h : report.outcome = .error error)
    (next : α → Report ε β) : (report.andThen next).outcome = .error error := by
  rw [andThen, h]

/-- A stage ends well when both parts of it do. -/
theorem outcome_andThen_eq_ok_iff {report : Report ε α} {next : α → Report ε β} {result : β} :
    (report.andThen next).outcome = .ok result ↔
      ∃ value, report.outcome = .ok value ∧ (next value).outcome = .ok result := by
  cases found : report.outcome <;> simp [andThen, found]

/-- After a result, the events of the next stage follow those before. -/
theorem events_andThen {report : Report ε α} {value : α} (h : report.outcome = .ok value)
    (next : α → Report ε β) :
    (report.andThen next).events = report.events ++ (next value).events := by
  rw [andThen, h]

/-- `ok` adds nothing behind a report. -/
@[simp]
theorem andThen_ok (report : Report ε α) : report.andThen ok = report := by
  obtain ⟨events, outcome⟩ := report
  cases outcome <;> simp [andThen, ok]

/-- Three reports may be grouped either way. -/
theorem andThen_assoc {γ : Type} (report : Report ε α) (next : α → Report ε β)
    (last : β → Report ε γ) :
    (report.andThen next).andThen last = report.andThen fun value => (next value).andThen last := by
  obtain ⟨events, outcome⟩ := report
  cases outcome with
  | error => rfl
  | ok value =>
    simp only [andThen]
    cases (next value).outcome with
    | error => rfl
    | ok => simp only [List.append_assoc]

/-! ### Going through a list -/

section Gather

variable {stage : α → Report ε (List β)}

/-- `gather` runs the stage on the first element and then on the rest. -/
theorem gather_cons (element : α) (rest : List α) :
    gather stage (element :: rest) =
      (stage element).andThen fun found =>
        (gather stage rest).andThen fun more => ok (found ++ more) :=
  rfl

/-- `gather` on one element is the stage on it. -/
theorem gather_singleton (element : α) : gather stage [element] = stage element := by
  simp [gather]

/-- Two lists that are gathered as one are gathered one after the other. -/
theorem gather_append (first second : List α) :
    gather stage (first ++ second) =
      (gather stage first).andThen fun found =>
        (gather stage second).andThen fun more => ok (found ++ more) := by
  induction first with
  | nil => simp [gather]
  | cons element rest ih =>
    rw [List.cons_append, gather_cons, gather_cons, ih]
    simp only [andThen_assoc, ok_andThen, List.append_assoc]

/-- Only the elements of the list count. -/
theorem gather_congr {other : α → Report ε (List β)} {list : List α}
    (h : ∀ element ∈ list, stage element = other element) :
    gather stage list = gather other list := by
  induction list with
  | nil => rfl
  | cons element rest ih =>
    rw [gather_cons, gather_cons, h element List.mem_cons_self,
      ih fun later member => h later (List.mem_cons_of_mem _ member)]

/-- A stage that goes through a list for every element is one way through all these lists. -/
theorem gather_flatMap {γ : Type} (parts : γ → List α) (list : List γ) :
    gather stage (list.flatMap parts) =
      gather (fun element => gather stage (parts element)) list := by
  induction list with
  | nil => rfl
  | cons element rest ih => rw [List.flatMap_cons, gather_append, ih, gather_cons]

/-- A stage that fails for no element gives what it gives for every element. -/
theorem outcome_gather {results : α → List β} {list : List α}
    (gives : ∀ element ∈ list, (stage element).outcome = .ok (results element)) :
    (gather stage list).outcome = .ok (list.flatMap results) := by
  induction list with
  | nil => rfl
  | cons element rest ih =>
    have others := ih fun later member => gives later (List.mem_cons_of_mem _ member)
    rw [gather_cons, outcome_andThen (gives element List.mem_cons_self), outcome_andThen others,
      List.flatMap_cons]
    rfl

/-- A stage that never fails notes what it notes for every element, in order. -/
theorem events_gather {results : α → List β}
    (gives : ∀ element, (stage element).outcome = .ok (results element)) (list : List α) :
    (gather stage list).events = list.flatMap fun element => (stage element).events := by
  induction list with
  | nil => rfl
  | cons element rest ih =>
    rw [gather_cons, events_andThen (gives element),
      events_andThen (outcome_gather fun later _ => gives later), List.flatMap_cons, ih, events_ok,
      List.append_nil]

end Gather

/-! ### Stages that end well -/

/-- A stage gives a result and no error. -/
def Succeeds (report : Report ε α) : Prop :=
  ∃ value, report.outcome = .ok value

section Succeeds

variable {report : Report ε α} {next : α → Report ε β}

/-- `ok` succeeds. -/
theorem succeeds_ok (value : α) : (ok value : Report ε α).Succeeds :=
  ⟨value, rfl⟩

/-- `fail` does not succeed. -/
theorem not_succeeds_fail (error : ε) : ¬(fail error : Report ε α).Succeeds := by
  rintro ⟨value, found⟩
  cases found

/-- `ofExcept` succeeds with the results that are values. -/
theorem succeeds_ofExcept_iff {outcome : Except ε α} :
    (ofExcept outcome).Succeeds ↔ ∃ value, outcome = .ok value :=
  Iff.rfl

/-- Two stages end well when the first one does and the second one does with its result. -/
theorem succeeds_andThen_iff :
    (report.andThen next).Succeeds ↔
      ∃ value, report.outcome = .ok value ∧ (next value).Succeeds := by
  constructor
  · rintro ⟨result, ended⟩
    obtain ⟨value, first, second⟩ := outcome_andThen_eq_ok_iff.1 ended
    exact ⟨value, first, result, second⟩
  · rintro ⟨value, first, result, second⟩
    exact ⟨result, outcome_andThen_eq_ok_iff.2 ⟨value, first, second⟩⟩

/-- When the result of the first stage has no say in whether the second one ends well, both have to.
-/
theorem succeeds_andThen_iff_and {ends : Prop} (h : ∀ value, (next value).Succeeds ↔ ends) :
    (report.andThen next).Succeeds ↔ report.Succeeds ∧ ends := by
  rw [succeeds_andThen_iff]
  constructor
  · rintro ⟨value, first, second⟩
    exact ⟨⟨value, first⟩, (h value).1 second⟩
  · rintro ⟨⟨value, first⟩, second⟩
    exact ⟨value, first, (h value).2 second⟩

/-- A stage that goes through a list ends well when it does for every element. -/
theorem succeeds_gather_iff {stage : α → Report ε (List β)} (list : List α) :
    (gather stage list).Succeeds ↔ ∀ element ∈ list, (stage element).Succeeds := by
  induction list with
  | nil => exact iff_of_true (succeeds_ok []) fun _ none => nomatch none
  | cons element rest ih =>
    have others : ∀ found, ((gather stage rest).andThen fun more => ok (found ++ more)).Succeeds ↔
        ∀ element ∈ rest, (stage element).Succeeds := by
      intro found
      rw [succeeds_andThen_iff_and fun more => iff_of_true (succeeds_ok _) trivial, and_true, ih]
    rw [gather_cons, succeeds_andThen_iff_and others, List.forall_mem_cons]

end Succeeds

/-! ### Properties of events -/

/-- All events of a stage have a property. -/
def Notes (p : Event → Prop) (report : Report ε α) : Prop :=
  ∀ event ∈ report.events, p event

section Notes

variable {p : Event → Prop}

/-- `ok` notes nothing, so it notes only what `p` allows. -/
theorem notes_ok (value : α) : Notes p (ok value : Report ε α) := by
  intro event none
  cases none

/-- `fail` notes nothing either. -/
theorem notes_fail (error : ε) : Notes p (fail error : Report ε α) := by
  intro event none
  cases none

/-- `ofExcept` notes nothing. -/
theorem notes_ofExcept (outcome : Except ε α) : Notes p (ofExcept outcome) := by
  intro event none
  cases none

/-- `note` notes its own event and no other. -/
theorem notes_note {event : Event} (h : p event) : Notes p (note event : Report ε Unit) := by
  intro noted member
  exact List.mem_singleton.1 member ▸ h

/-- What both parts of a stage keep to, the stage keeps to. -/
theorem Notes.andThen {report : Report ε α} {next : α → Report ε β} (first : Notes p report)
    (second : ∀ value, Notes p (next value)) : Notes p (report.andThen next) := by
  intro event member
  cases found : report.outcome with
  | error =>
    simp only [Report.andThen, found] at member
    exact first event member
  | ok value =>
    rw [events_andThen found, List.mem_append] at member
    exact member.elim (first event) (second value event)

end Notes

end Accord.Report
