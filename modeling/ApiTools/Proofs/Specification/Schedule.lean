/-
  ApiTools.Proofs.Specification.Schedule
  ──────────────────────────────────────
  **WORK ON MANY FILES AT ONCE.**

  A load works on its files in any order, and on no more of them at once than
  it has permits.  Files are known by their places in a list, the work on each
  is at a `Stage`, and a `Run` is the list of what happened so far: the work
  on a file starts, which takes a permit, or it is finished, which gives the
  permit back and leaves the outcome of the file in its place.

  Main results, for every run however the events are interleaved:

    • `running_le_of_run` — never more work at once than permits,
    • `exists_step_of_unfinished`, `length_le_of_run` — a run that is not
      finished goes on, and it ends,
    • `count_of_finished` — the work on every file is done once,
    • `eq_done_of_finished` — in the end every outcome is at its place,
    • `firstFinished_in_turn` — with a single permit the first one of a kind
      in time is the first one in the list.
-/
import Mathlib.Data.List.Basic

namespace ApiTools.Schedule

/-! ## §1. Stages and events. -/

/-- How far the work on a file is. -/
inductive Stage (α : Type) where
  | waiting
  | running
  | done (outcome : α)

namespace Stage

variable {α : Type}

def isRunning : Stage α → Bool
  | running => true
  | _ => false

def isDone : Stage α → Bool
  | done _ => true
  | _ => false

def hasStarted : Stage α → Bool
  | waiting => false
  | _ => true

def outcome? : Stage α → Option α
  | done o => some o
  | _ => none

end Stage

/-- What happens to the work on the file at a place. -/
inductive Event where
  | start (i : Nat)
  | finish (i : Nat)
  deriving DecidableEq

/-- The place of a file whose work starts. -/
def Event.started? : Event → Option Nat
  | start i => some i
  | finish _ => none

/-- The place of a file whose work is finished. -/
def Event.finished? : Event → Option Nat
  | start _ => none
  | finish i => some i

/-- The files whose work started, in the order of time. -/
def starts (es : List Event) : List Nat := es.filterMap Event.started?

/-- The files whose work was finished, in the order of time. -/
def finishes (es : List Event) : List Nat := es.filterMap Event.finished?

section Steps

variable {α : Type}

/-- How many files are worked on. -/
def running (s : List (Stage α)) : Nat := s.countP Stage.isRunning

/-- One event: waiting work starts if a permit is left, running work ends with the outcome of its
file. -/
inductive Step (permits : Nat) (outcomes : List α) :
    List (Stage α) → Event → List (Stage α) → Prop
  | start {s : List (Stage α)} {i : Nat} (waits : s[i]? = some .waiting)
      (free : running s < permits) : Step permits outcomes s (.start i) (s.set i .running)
  | finish {s : List (Stage α)} {i : Nat} {o : α} (runs : s[i]? = some .running)
      (gives : outcomes[i]? = some o) : Step permits outcomes s (.finish i) (s.set i (.done o))

/-- What can happen, from the start where all work waits, and the stages it leads to. -/
inductive Run (permits : Nat) (outcomes : List α) : List Event → List (Stage α) → Prop
  | nil : Run permits outcomes [] (List.replicate outcomes.length .waiting)
  | snoc {es : List Event} {e : Event} {s t : List (Stage α)} (before : Run permits outcomes es s)
      (last : Step permits outcomes s e t) : Run permits outcomes (es ++ [e]) t

/-- Is the work on every file done? -/
def Finished (s : List (Stage α)) : Prop := ∀ stage ∈ s, stage.isDone = true

/-- The outcomes in the order of the files, once the work on all of them is done. -/
def gathered (s : List (Stage α)) : Option (List α) :=
  if s.all Stage.isDone then some (s.filterMap Stage.outcome?) else none

/-- What is told by the first outcome in time that tells something. -/
def firstFinished {β : Type} (outcomes : List α) (tell : α → Option β) (es : List Event) :
    Option β :=
  (finishes es).findSome? fun i => outcomes[i]?.bind tell

end Steps

/-- Files start in the order of the list: they ask for permits one after the other and get them in
that order. -/
def InTurn (es : List Event) : Prop := starts es = List.range (starts es).length

/-! ## §2. What one step changes. -/

section OneStep

variable {α : Type} {permits : Nat} {outcomes : List α} {s t : List (Stage α)} {e : Event}

/-- Replacing one stage moves a count by what the two stages count for. -/
theorem countP_set_add (p : Stage α → Bool) {i : Nat} {old : Stage α} (h : s[i]? = some old)
    (new : Stage α) :
    (s.set i new).countP p + (if p old then 1 else 0) = s.countP p + (if p new then 1 else 0) := by
  obtain ⟨hi, hold⟩ := List.getElem?_eq_some_iff.mp h
  rw [List.countP_set hi, hold]
  cases hp : p old with
  | false => simp
  | true =>
      have counted : 0 < s.countP p := List.countP_pos_iff.mpr ⟨old, List.mem_of_getElem? h, hp⟩
      simp only [if_true]
      omega

theorem getElem?_set_of_some {i : Nat} {old : Stage α} (h : s[i]? = some old) (new : Stage α) :
    (s.set i new)[i]? = some new := by
  obtain ⟨hi, _⟩ := List.getElem?_eq_some_iff.mp h
  exact List.getElem?_set_self hi

theorem length_step (h : Step permits outcomes s e t) : t.length = s.length := by
  cases h <;> exact List.length_set

/-- A start takes a permit that is left, a finish gives one back. -/
theorem running_step (h : Step permits outcomes s e t) (le : running s ≤ permits) :
    running t ≤ permits := by
  unfold running at le ⊢
  cases h with
  | @start i waits free =>
      have moved := countP_set_add Stage.isRunning waits .running
      simp only [Stage.isRunning, Bool.false_eq_true, if_false, if_true] at moved
      unfold running at free
      omega
  | @finish i o runs gives =>
      have moved := countP_set_add Stage.isRunning runs (.done o)
      simp only [Stage.isRunning, Bool.false_eq_true, if_false, if_true] at moved
      omega

/-- How many events the stages have behind them. -/
def behind (s : List (Stage α)) : Nat := s.countP Stage.hasStarted + s.countP Stage.isDone

theorem behind_step (h : Step permits outcomes s e t) : behind t = behind s + 1 := by
  unfold behind
  cases h with
  | @start i waits free =>
      have started := countP_set_add Stage.hasStarted waits .running
      have done := countP_set_add Stage.isDone waits .running
      simp only [Stage.hasStarted, Stage.isDone, Bool.false_eq_true, if_false, if_true]
        at started done
      omega
  | @finish i o runs gives =>
      have started := countP_set_add Stage.hasStarted runs (.done o)
      have done := countP_set_add Stage.isDone runs (.done o)
      simp only [Stage.hasStarted, Stage.isDone, Bool.false_eq_true, if_false, if_true]
        at started done
      omega

/-- Work that waits can start if nothing runs, and work that runs can end: what is not done goes
on. -/
theorem exists_step_of_unfinished (some_permit : 0 < permits) (length : s.length = outcomes.length)
    (unfinished : ¬ Finished s) : ∃ e t, Step permits outcomes s e t := by
  by_cases busy : ∃ i : Nat, s[i]? = some .running
  · obtain ⟨i, runs⟩ := busy
    obtain ⟨hi, _⟩ := List.getElem?_eq_some_iff.mp runs
    rw [length] at hi
    exact ⟨_, _, .finish runs (List.getElem?_eq_getElem hi)⟩
  · have idle : running s = 0 := by
      refine List.countP_eq_zero.mpr fun stage mem runs => ?_
      obtain ⟨i, hi⟩ := List.mem_iff_getElem?.mp mem
      cases stage with
      | running => exact busy ⟨i, hi⟩
      | waiting => simp [Stage.isRunning] at runs
      | done o => simp [Stage.isRunning] at runs
    -- somebody is not done, and does not run either
    unfold Finished at unfinished
    push Not at unfinished
    obtain ⟨stage, mem, undone⟩ := unfinished
    obtain ⟨i, hi⟩ := List.mem_iff_getElem?.mp mem
    cases stage with
    | waiting => exact ⟨_, _, .start hi (by omega)⟩
    | running => exact absurd ⟨i, hi⟩ busy
    | done o => exact absurd rfl undone

end OneStep

/-! ## §3. What every run keeps. -/

section Runs

variable {α : Type} {permits : Nat} {outcomes : List α} {es : List Event} {s : List (Stage α)}

theorem length_of_run (run : Run permits outcomes es s) : s.length = outcomes.length := by
  induction run with
  | nil => exact List.length_replicate
  | snoc before last ih => rw [length_step last, ih]

/-- **Never more work at once than permits.** -/
theorem running_le_of_run (run : Run permits outcomes es s) : running s ≤ permits := by
  induction run with
  | nil => simp [running, List.countP_replicate, Stage.isRunning]
  | snoc before last ih => exact running_step last ih

/-- **Every run ends**: it has at most two events for each file. -/
theorem length_le_of_run (run : Run permits outcomes es s) : es.length ≤ 2 * outcomes.length := by
  have counted : es.length = behind s := by
    induction run with
    | nil => simp [behind, List.countP_replicate, Stage.hasStarted, Stage.isDone]
    | snoc before last ih =>
        rw [List.length_append, List.length_singleton, ih, behind_step last]
  have started := List.countP_le_length (p := Stage.hasStarted) (l := s)
  have done := List.countP_le_length (p := Stage.isDone) (l := s)
  have length := length_of_run run
  unfold behind at counted
  omega

/-- The work on a file has started once, and has been finished once, if its stage says so; else
never. -/
theorem counts_of_run (run : Run permits outcomes es s) (i : Nat) :
    es.count (.start i) = (if (s[i]?).any Stage.hasStarted then 1 else 0)
      ∧ es.count (.finish i) = (if (s[i]?).any Stage.isDone then 1 else 0) := by
  induction run with
  | nil =>
      by_cases hi : i < outcomes.length <;> simp [hi, Stage.hasStarted, Stage.isDone]
  | @snoc es e s t before last ih =>
      rw [List.count_append, List.count_append, ih.1, ih.2]
      cases last with
      | @start j waits free =>
          by_cases same : j = i
          · subst same
            rw [getElem?_set_of_some waits, waits]
            simp [Stage.hasStarted, Stage.isDone]
          · rw [List.getElem?_set_ne same]
            simp [same]
      | @finish j o runs gives =>
          by_cases same : j = i
          · subst same
            rw [getElem?_set_of_some runs, runs]
            simp [Stage.hasStarted, Stage.isDone]
          · rw [List.getElem?_set_ne same]
            simp [same]

/-- Work that is done left the outcome of its own file. -/
theorem outcome_of_run (run : Run permits outcomes es s) {i : Nat} {o : α}
    (h : s[i]? = some (.done o)) : outcomes[i]? = some o := by
  induction run with
  | nil =>
      rw [List.getElem?_replicate] at h
      split at h <;> simp at h
  | @snoc es e s t before last ih =>
      cases last with
      | @start j waits free =>
          by_cases same : j = i
          · subst same
            rw [getElem?_set_of_some waits] at h
            simp at h
          · rw [List.getElem?_set_ne same] at h
            exact ih h
      | @finish j o' runs gives =>
          by_cases same : j = i
          · subst same
            rw [getElem?_set_of_some runs, Option.some.injEq, Stage.done.injEq] at h
            rw [gives, h]
          · rw [List.getElem?_set_ne same] at h
            exact ih h

/-! ## §4. Runs that are finished. -/

theorem stage_of_finished (finished : Finished s) {i : Nat} (hi : i < s.length) :
    ∃ o, s[i]? = some (.done o) := by
  have done := finished s[i] (List.getElem_mem hi)
  cases stage : s[i] with
  | done o => exact ⟨o, by rw [List.getElem?_eq_getElem hi, stage]⟩
  | waiting =>
      rw [stage] at done
      exact absurd done (by simp [Stage.isDone])
  | running =>
      rw [stage] at done
      exact absurd done (by simp [Stage.isDone])

/-- **In the end every outcome is at the place of its file**, whenever it came. -/
theorem eq_done_of_finished (run : Run permits outcomes es s) (finished : Finished s) :
    s = outcomes.map .done := by
  have length := length_of_run run
  refine List.ext_getElem? fun i => ?_
  by_cases hi : i < s.length
  · obtain ⟨o, stage⟩ := stage_of_finished finished hi
    rw [stage, List.getElem?_map, outcome_of_run run stage]
    rfl
  · rw [List.getElem?_eq_none (by omega), List.getElem?_eq_none (by simp; omega)]

theorem gathered_map_done (outcomes : List α) :
    gathered (outcomes.map .done) = some outcomes := by
  have all : (outcomes.map Stage.done).all Stage.isDone = true := by
    simp [List.all_map, Stage.isDone]
  have given : (outcomes.map Stage.done).filterMap Stage.outcome? = outcomes := by
    rw [List.filterMap_map]
    exact List.filterMap_some
  rw [gathered, if_pos all, given]

/-- **What a finished run gathers are the outcomes in the order of the files.** -/
theorem gathered_of_finished (run : Run permits outcomes es s) (finished : Finished s) :
    gathered s = some outcomes := by
  rw [eq_done_of_finished run finished, gathered_map_done]

/-- **The work on every file is done once.** -/
theorem count_of_finished (run : Run permits outcomes es s) (finished : Finished s) {i : Nat}
    (hi : i < outcomes.length) : es.count (.start i) = 1 ∧ es.count (.finish i) = 1 := by
  have length := length_of_run run
  obtain ⟨o, stage⟩ := stage_of_finished finished (by omega : i < s.length)
  obtain ⟨started, done⟩ := counts_of_run run i
  rw [started, done, stage]
  exact ⟨rfl, rfl⟩

/-- The events of working on the first files one after the other. -/
def oneByOne (n : Nat) : List Event := (List.range n).flatMap fun i => [.start i, .finish i]

theorem oneByOne_succ (n : Nat) :
    oneByOne (n + 1) = (oneByOne n ++ [.start n]) ++ [.finish n] := by
  simp [oneByOne, List.range_succ]

/-- A file that waits while nothing runs can be worked on to its end. -/
theorem run_next (some_permit : 0 < permits) {front back : List (Stage α)} {o : α}
    (run : Run permits outcomes es (front ++ .waiting :: back))
    (idle : running (front ++ .waiting :: back) = 0) (gives : outcomes[front.length]? = some o) :
    Run permits outcomes ((es ++ [.start front.length]) ++ [.finish front.length])
      (front ++ .done o :: back) := by
  have replace : ∀ a b : Stage α, (front ++ a :: back).set front.length b = front ++ b :: back := by
    intro a b
    rw [List.set_append_right _ _ (Nat.le_refl _), Nat.sub_self, List.set_cons_zero]
  have stands : ∀ a : Stage α, (front ++ a :: back)[front.length]? = some a := by
    intro a
    rw [List.getElem?_append_right (Nat.le_refl _), Nat.sub_self, List.getElem?_cons_zero]
  have started := run.snoc (.start (stands .waiting) (by rw [idle]; exact some_permit))
  rw [replace] at started
  have finished := started.snoc (.finish (stands .running) gives)
  rwa [replace] at finished

/-- **With a permit the files can be worked on one after the other.** -/
theorem run_oneByOne (some_permit : 0 < permits) {k : Nat} (le : k ≤ outcomes.length) :
    Run permits outcomes (oneByOne k)
      ((outcomes.take k).map .done ++ List.replicate (outcomes.length - k) .waiting) := by
  induction k with
  | zero => exact .nil
  | succ k ih =>
      have before := ih (by omega)
      have hk : k < outcomes.length := by omega
      have length : ((outcomes.take k).map Stage.done).length = k := by
        rw [List.length_map, List.length_take]
        omega
      -- the file at place `k` is the first one that waits
      obtain ⟨m, hm⟩ : ∃ m, outcomes.length - k = m + 1 := ⟨outcomes.length - (k + 1), by omega⟩
      rw [hm, List.replicate_succ] at before
      have idle : running ((outcomes.take k).map Stage.done ++ .waiting :: List.replicate m .waiting)
          = 0 := by
        refine List.countP_eq_zero.mpr fun stage mem => ?_
        rcases List.mem_append.mp mem with mem | mem
        · obtain ⟨o, _, rfl⟩ := List.mem_map.mp mem
          simp [Stage.isRunning]
        · rw [← List.replicate_succ] at mem
          rw [List.eq_of_mem_replicate mem]
          simp [Stage.isRunning]
      have next := run_next some_permit before idle
        (by rw [length]; exact List.getElem?_eq_getElem hk)
      have taken : outcomes.take (k + 1) = outcomes.take k ++ [outcomes[k]] :=
        (List.take_append_getElem hk).symm
      rw [length, ← oneByOne_succ] at next
      rw [taken, List.map_append, List.append_assoc,
        show outcomes.length - (k + 1) = m by omega]
      exact next

/-- One after the other all files are done. -/
theorem run_oneByOne_length (some_permit : 0 < permits) (outcomes : List α) :
    Run permits outcomes (oneByOne outcomes.length) (outcomes.map .done) := by
  have run : Run permits outcomes (oneByOne outcomes.length) _ :=
    run_oneByOne some_permit (Nat.le_refl _)
  rwa [List.take_length, Nat.sub_self, List.replicate_zero, List.append_nil] at run

theorem finished_map_done (outcomes : List α) : Finished (outcomes.map .done) := by
  intro stage mem
  obtain ⟨o, _, rfl⟩ := List.mem_map.mp mem
  rfl

/-! ## §5. What is first in time. -/

theorem mem_finishes_iff {i : Nat} : i ∈ finishes es ↔ .finish i ∈ es := by
  unfold finishes
  rw [List.mem_filterMap]
  constructor
  · rintro ⟨e, mem, place⟩
    cases e with
    | start j => simp [Event.finished?] at place
    | finish j =>
        simp only [Event.finished?, Option.some.injEq] at place
        rwa [← place]
  · intro mem
    exact ⟨.finish i, mem, rfl⟩

/-- In a finished run every file has been finished. -/
theorem mem_finishes_of_finished (run : Run permits outcomes es s) (finished : Finished s) {i : Nat}
    (hi : i < outcomes.length) : i ∈ finishes es := by
  have once := (count_of_finished run finished hi).2
  exact mem_finishes_iff.mpr (List.count_pos_iff.mp (by omega))

section Told

variable {β : Type} {tell : α → Option β}

/-- What is first in time comes from one of the files. -/
theorem exists_of_firstFinished {b : β} (h : firstFinished outcomes tell es = some b) :
    ∃ o ∈ outcomes, tell o = some b := by
  obtain ⟨i, _, told⟩ := List.exists_of_findSome?_eq_some h
  obtain ⟨o, place, told⟩ := Option.bind_eq_some_iff.mp told
  exact ⟨o, List.mem_of_getElem? place, told⟩

/-- A finished run has told something if any file tells something. -/
theorem firstFinished_isSome_of_finished (run : Run permits outcomes es s) (finished : Finished s)
    {o : α} (mem : o ∈ outcomes) (told : (tell o).isSome) :
    (firstFinished outcomes tell es).isSome := by
  obtain ⟨i, hi, place⟩ := List.mem_iff_getElem.mp mem
  refine List.findSome?_isSome_iff.mpr ⟨i, mem_finishes_of_finished run finished hi, ?_⟩
  rw [List.getElem?_eq_getElem hi, place]
  exact told

/-- Looking through the first places in order is looking through the first elements. -/
theorem findSome?_range (outcomes : List α) (tell : α → Option β) (m : Nat) :
    (List.range m).findSome? (fun i => outcomes[i]?.bind tell)
      = (outcomes.take m).findSome? tell := by
  induction m with
  | zero => rfl
  | succ m ih =>
      rw [List.range_succ, List.findSome?_append, ih, List.take_add_one, List.findSome?_append]
      congr 1
      rw [List.findSome?_singleton]
      cases outcomes[m]? with
      | none => rfl
      | some o => rw [Option.toList_some, List.findSome?_singleton, Option.bind_some]

theorem starts_concat_start (i : Nat) : starts (es ++ [.start i]) = starts es ++ [i] :=
  List.filterMap_append

theorem starts_concat_finish (i : Nat) : starts (es ++ [.finish i]) = starts es := by
  rw [starts, List.filterMap_append]
  exact List.append_nil _

theorem finishes_concat_start (i : Nat) : finishes (es ++ [.start i]) = finishes es := by
  rw [finishes, List.filterMap_append]
  exact List.append_nil _

theorem finishes_concat_finish (i : Nat) : finishes (es ++ [.finish i]) = finishes es ++ [i] :=
  List.filterMap_append

/-- Files that are worked on one after the other start in turn. -/
theorem starts_oneByOne (n : Nat) : starts (oneByOne n) = List.range n := by
  induction n with
  | zero => rfl
  | succ n ih =>
      rw [oneByOne_succ, starts_concat_finish, starts_concat_start, ih, List.range_succ]

theorem inTurn_oneByOne (n : Nat) : InTurn (oneByOne n) := by
  unfold InTurn
  rw [starts_oneByOne, List.length_range]

/-- With one permit either nothing runs and the files were finished in the order in which they
started, or the one that started last still runs. -/
theorem finishes_of_single (run : Run 1 outcomes es s) :
    (finishes es = starts es ∧ ∀ i : Nat, s[i]? ≠ some .running)
      ∨ ∃ i : Nat, s[i]? = some .running ∧ finishes es ++ [i] = starts es
          ∧ ∀ j : Nat, s[j]? = some .running → j = i := by
  induction run with
  | nil =>
      refine Or.inl ⟨rfl, fun i h => ?_⟩
      rw [List.getElem?_replicate] at h
      split at h <;> simp at h
  | @snoc es e s t before last ih =>
      cases last with
      | @start i waits free =>
          -- the permit is left, so nothing runs
          have idle : ∀ j : Nat, s[j]? ≠ some .running := by
            intro j h
            have busy : 0 < running s :=
              List.countP_pos_iff.mpr ⟨.running, List.mem_of_getElem? h, rfl⟩
            omega
          have same : finishes es = starts es := by
            rcases ih with ⟨same, _⟩ | ⟨k, runs, _⟩
            · exact same
            · exact absurd runs (idle k)
          refine Or.inr ⟨i, getElem?_set_of_some waits .running, ?_, fun j runs => ?_⟩
          · rw [finishes_concat_start, starts_concat_start, same]
          · by_contra other
            rw [List.getElem?_set_ne fun e => other e.symm] at runs
            exact idle j runs
      | @finish i o runs gives =>
          rcases ih with ⟨_, idle⟩ | ⟨k, _, open_, only⟩
          · exact absurd runs (idle i)
          · have last : i = k := only i runs
            subst last
            refine Or.inl ⟨?_, fun j runs' => ?_⟩
            · rw [finishes_concat_finish, starts_concat_finish, open_]
            · by_cases same : i = j
              · subst same
                rw [getElem?_set_of_some runs] at runs'
                simp at runs'
              · rw [List.getElem?_set_ne same] at runs'
                exact same (only j runs').symm

theorem finishes_prefix_of_single (run : Run 1 outcomes es s) : finishes es <+: starts es := by
  rcases finishes_of_single run with ⟨same, _⟩ | ⟨i, _, open_, _⟩
  · exact ⟨[], by rw [List.append_nil, same]⟩
  · exact ⟨[i], open_⟩

/-- **With one permit, first in time is first in the list**, if the files start in turn. -/
theorem firstFinished_in_turn (run : Run 1 outcomes es s) (turn : InTurn es) {b : β}
    (h : firstFinished outcomes tell es = some b) : outcomes.findSome? tell = some b := by
  have in_order : finishes es = List.range (min (finishes es).length (starts es).length) := by
    have cut := List.prefix_iff_eq_take.mp (finishes_prefix_of_single run)
    rw [turn, List.take_range] at cut
    exact cut
  rw [firstFinished, in_order, findSome?_range] at h
  rw [← List.take_append_drop _ outcomes, List.findSome?_append, h]
  rfl

end Told

end Runs

end ApiTools.Schedule
