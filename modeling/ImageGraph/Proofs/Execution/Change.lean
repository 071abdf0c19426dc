import ImageGraph.Proofs.Execution.Trace
import ImageGraph.Proofs.Store.History
import ImageGraph.Proofs.Store.Refinement
import ImageGraph.Rehearsal.Action
import Mathlib.Logic.Relation

/-! What may happen to a world: operations on its store, one after the other, and anything apart
from the store. Names for records are given out in order, so a name stays with its record, and what
has ended stays so. -/

namespace ImageGraph

open Relation Store

namespace World

/-- What may happen to a world at once: an operation on its store, records listed in another order,
or anything apart from the store and the names for records. -/
inductive Change (w : World) : World → Prop where
  | create (workflow output : String) (request : Json) :
      Change w (w.createRecord workflow output request).2
  | mark (m : Mark) (id : RecordId) : Change w { w with store := w.store.tryMark m w.now id }
  | clear (workflow : String) : Change w { w with store := (w.store.clear workflow).2 }
  | relist {records : List Record} :
      records.Perm w.store.records → Change w { w with store := { w.store with records } }
  | elsewhere {w' : World} :
      w'.store = w.store → w'.named = w.named → w'.recordName = w.recordName → Change w w'

@[simp] theorem leave_recordName (w : World) (output : NodeId) :
    (w.leave output).recordName = w.recordName := by
  unfold leave
  split <;> rfl

theorem Change.leave (w : World) (output : NodeId) : w.Change (w.leave output) :=
  .elsewhere (w.leave_store output) (w.leave_named output) (w.leave_recordName output)

/-- Records go by the names given out, each by the one that was next when it was created. -/
structure Numbered (w : World) : Prop where
  fresh : Function.Injective w.recordName
  count : w.store.nextSeq = w.named
  name : ∀ r ∈ w.store.records, r.id = w.recordName r.seq
  shown : ∃ l, Shows w.store l

namespace Numbered

variable {w w' : World}

theorem seq_lt (h : Numbered w) {r : Record} (hr : r ∈ w.store.records) : r.seq < w.named := by
  obtain ⟨l, shown⟩ := h.shown
  rw [← h.count, shown.count]
  exact shown.bound r (shown.records.mem_iff.1 hr)

theorem get?_eq_some_iff (h : Numbered w) {id : RecordId} {r : Record} :
    w.store.get? id = some r ↔ r ∈ w.store.records ∧ r.id = id := by
  obtain ⟨l, shown⟩ := h.shown
  rw [shown.get?_eq_some_iff, shown.records.mem_iff]

theorem ne_nextName (h : Numbered w) {r : Record} (hr : r ∈ w.store.records) :
    r.id ≠ w.nextName := by
  rw [h.name r hr]
  exact fun same => Nat.ne_of_lt (h.seq_lt hr) (h.fresh same)

/-- An operation that draws the next name for a record, or none, keeps the numbering. -/
theorem perform (h : Numbered w) (op : Operation) (named : Nat)
    (drawn : op.newId? = some w.nextName ∧ named = w.named + 1 ∨
      op.newId? = none ∧ named = w.named)
    (count : (w.store.perform op).2.nextSeq = named) :
    Numbered { w with store := (w.store.perform op).2, named } where
  fresh := h.fresh
  count := count
  name r hr := by
    obtain ⟨q, hq, becomes⟩ | ⟨new, seq⟩ := (origin_of_mem hr).becomes
    · rw [becomes.id, becomes.seq]
      exact h.name q hq
    · -- A created record takes the next number and the name that goes with it.
      obtain ⟨next, -⟩ | ⟨none, -⟩ := drawn
      · rw [seq, h.count, Option.some.inj (new.symm.trans next)]
        rfl
      · cases new.symm.trans none
  shown := by
    obtain ⟨l, shown⟩ := h.shown
    refine ⟨_, (shown.perform op fun id hid hm => ?_).2⟩
    obtain ⟨r, hr, rfl⟩ := List.mem_map.1 hm
    obtain ⟨next, -⟩ | ⟨none, -⟩ := drawn
    · exact h.ne_nextName (shown.records.mem_iff.2 hr) (Option.some.inj (hid.symm.trans next))
    · cases hid.symm.trans none

theorem change (h : Numbered w) (hc : w.Change w') : Numbered w' := by
  cases hc with
  | create workflow output request =>
    exact h.perform (.create w.nextName w.now workflow output request) (w.named + 1)
      (.inl ⟨rfl, rfl⟩) (congrArg (· + 1) h.count)
  | mark m id =>
    have marked := h.perform (.mark m w.now id) w.named (.inr ⟨rfl, rfl⟩)
      (by rw [perform_mark, nextSeq_tryMark, h.count])
    rwa [perform_mark] at marked
  | clear workflow => exact h.perform (.clear workflow) w.named (.inr ⟨rfl, rfl⟩) h.count
  | relist hp =>
    obtain ⟨l, shown⟩ := h.shown
    exact ⟨h.fresh, h.count, fun r hr => h.name r (hp.mem_iff.1 hr), l, shown.relist hp⟩
  | elsewhere store named recordName =>
    exact ⟨recordName ▸ h.fresh, by rw [store, named, h.count],
      fun r hr => by rw [recordName]; exact h.name r (store ▸ hr), store ▸ h.shown⟩

end Numbered

/-- A name that was given out. -/
def Given (w : World) (id : RecordId) : Prop :=
  ∃ i < w.named, w.recordName i = id

/-- The record of a name has ended, if it is still there. -/
def Ended (w : World) (id : RecordId) : Prop :=
  ∀ r ∈ w.store.records, r.id = id → r.status.isFinal

namespace Change

variable {w w' : World} {id : RecordId}

/-- A change draws the next name for a record or none. -/
theorem leads (hc : w.Change w') :
    (∃ ops, Leads w.store ops w'.store ∧ ∀ id ∈ ops.filterMap Operation.newId?, id = w.nextName) ∧
      w.named ≤ w'.named ∧ w'.recordName = w.recordName := by
  cases hc with
  | create workflow output request =>
    refine ⟨⟨_, .perform (.create w.nextName w.now workflow output request) .refl, ?_⟩,
      Nat.le_succ _, rfl⟩
    exact fun id hid => List.mem_singleton.1 hid
  | mark m id =>
    have marked : Leads w.store _ _ := .perform (.mark m w.now id) .refl
    rw [perform_mark] at marked
    exact ⟨⟨_, marked, fun id hid => by cases hid⟩, Nat.le_refl _, rfl⟩
  | clear workflow =>
    exact ⟨⟨_, .perform (.clear workflow) .refl, fun id hid => by cases hid⟩, Nat.le_refl _, rfl⟩
  | relist hp => exact ⟨⟨[], .relist hp .refl, fun id hid => by cases hid⟩, Nat.le_refl _, rfl⟩
  | elsewhere store named recordName =>
    exact ⟨⟨[], store ▸ .refl, fun id hid => by cases hid⟩, Nat.le_of_eq named.symm, recordName⟩

/-- What has ended stays so, since its name is not given to another record. -/
theorem ended (hc : w.Change w') (hw : w.Numbered) (hg : w.Given id) (h : w.Ended id) :
    w'.Ended id := by
  obtain ⟨⟨ops, leads, drawn⟩, -, -⟩ := hc.leads
  intro r hr hid
  obtain ⟨q, hq, becomes⟩ | ⟨new, -⟩ := leads.becomes r hr
  · have final := h q hq (becomes.id.symm.trans hid)
    rwa [becomes.settled final]
  · -- What was created since has a later name.
    obtain ⟨i, hi, rfl⟩ := hg
    have same := hid.symm.trans (drawn _ new)
    exact absurd (hw.fresh same) (Nat.ne_of_lt hi)

end Change

abbrev Changes : World → World → Prop :=
  ReflTransGen Change

namespace Changes

variable {w w' : World} {id : RecordId}

theorem numbered (h : w.Changes w') (hw : w.Numbered) : w'.Numbered := by
  induction h with
  | refl => exact hw
  | tail _ last ih => exact ih.change last

theorem names (h : w.Changes w') : w.named ≤ w'.named ∧ w'.recordName = w.recordName := by
  induction h with
  | refl => exact ⟨Nat.le_refl _, rfl⟩
  | tail _ last ih =>
    obtain ⟨-, le, same⟩ := last.leads
    exact ⟨Nat.le_trans ih.1 le, same.trans ih.2⟩

theorem given (h : w.Changes w') (hg : w.Given id) : w'.Given id := by
  obtain ⟨le, same⟩ := h.names
  obtain ⟨i, hi, rfl⟩ := hg
  exact ⟨i, Nat.lt_of_lt_of_le hi le, by rw [same]⟩

theorem given_of_mem (h : w.Changes w') (hm : id ∈ w.namesUntil w') : w'.Given id := by
  obtain ⟨i, hi, rfl⟩ := List.mem_map.1 hm
  rw [List.mem_range'_1] at hi
  exact ⟨i, by omega, by rw [h.names.2]⟩

theorem ended (h : w.Changes w') (hw : w.Numbered) (hg : w.Given id) (he : w.Ended id) :
    w'.Ended id := by
  induction h with
  | refl => exact he
  | tail earlier last ih =>
    have earlier : w.Changes _ := earlier
    exact last.ended (earlier.numbered hw) (earlier.given hg) ih

end Changes

end World

theorem World.markFor_change (w : World) (m : Mark) (id : RecordId) :
    w.Change (w.markFor fun s => s.mark m w.now id).2 := by
  have marked := Change.mark (w := w) m id
  rw [Store.tryMark] at marked
  simp only [markFor, World.mark]
  cases hm : w.store.mark m w.now id <;> rw [hm] at marked <;> exact marked

theorem Command.perform_change (w : World) (c : Command) : w.Change (c.perform w).2 := by
  cases c with
  | create workflow output request => exact .create workflow output request
  | clear workflow => exact .clear workflow
  | markRunning id => exact w.markFor_change .running id
  | markSucceeded id response => exact w.markFor_change (.succeeded response) id
  | markFailed id error => exact w.markFor_change (.failed error) id
  | markCanceled id => exact w.markFor_change .canceled id
  | update node patch =>
    simp only [perform]
    split <;> exact .elsewhere rfl rfl rfl
  | _ => exact .elsewhere rfl rfl rfl

end ImageGraph
