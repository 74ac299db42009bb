import LineScript.Proofs.Store.Runs

namespace LineScript

namespace Store

variable {store other : Store}

theorem toSnapshot_congr (same : ∀ partition name,
    (store.bound partition).get? name = (other.bound partition).get? name) :
    store.toSnapshot = other.toSnapshot := by
  have sameVariables : store.variables = other.variables := NameMap.ext_get? (same .ordinary)
  have sameCaptures : store.captures = other.captures := NameMap.ext_get? (same .capture)
  unfold toSnapshot
  rw [sameVariables, sameCaptures]

theorem toSnapshot_inj (fits : store.Fits) (otherFits : other.Fits)
    (same : store.toSnapshot = other.toSnapshot) : store.withoutLog = other.withoutLog := by
  have restored := ofSnapshot?_toSnapshot fits
  rw [same, ofSnapshot?_toSnapshot otherFits] at restored
  exact (Option.some.inj restored).symm

theorem toSnapshot_eq_iff (fits : store.Fits) (otherFits : other.Fits) :
    store.toSnapshot = other.toSnapshot ↔ ∀ partition name,
      (store.bound partition).get? name = (other.bound partition).get? name := by
  constructor
  · intro same partition name
    have restored := toSnapshot_inj fits otherFits same
    cases partition with
    | ordinary => exact congrArg (fun store => store.variables.get? name) restored
    | capture => exact congrArg (fun store => store.captures.get? name) restored
  · exact toSnapshot_congr

/-- Stores bind the same exactly if they stand for one finite map. -/
theorem Represents.eq_iff {bindings others : Bindings} (represents : store.Represents bindings)
    (otherRepresents : other.Represents others) :
    bindings = others ↔ ∀ partition name,
      (store.bound partition).get? name = (other.bound partition).get? name := by
  constructor
  · rintro rfl partition name
    rw [represents.get?_bound, otherRepresents.get?_bound]
  · intro same
    apply Finmap.ext_lookup
    intro name
    apply Option.ext
    intro ⟨value, partition⟩
    rw [← represents partition name value, ← otherRepresents partition name value, same]

/-- The bytes of the stores that two runs leave are equal exactly if the stores bind the same in both
partitions; and that they do exactly if the runs come to one finite map. -/
theorem snapshots_show_bindings_alone {actions others : List Action} (fits : (after actions).Fits)
    (otherFits : (after others).Fits) :
    ((after actions).toSnapshot = (after others).toSnapshot ↔
      ∀ name, (after actions).variables.get? name = (after others).variables.get? name ∧
        (after actions).captures.get? name = (after others).captures.get? name) ∧
    (AllRestorable ⟨empty, []⟩ actions → AllRestorable ⟨empty, []⟩ others →
      ((after actions).toSnapshot = (after others).toSnapshot ↔
        Bindings.after actions = Bindings.after others)) := by
  rw [toSnapshot_eq_iff fits otherFits]
  constructor
  · constructor
    · intro same name
      exact ⟨same .ordinary name, same .capture name⟩
    · intro same partition name
      cases partition with
      | ordinary => exact (same name).1
      | capture => exact (same name).2
  · intro restorable otherRestorable
    exact ((after_represents restorable).eq_iff (after_represents otherRestorable)).symm

/-- A name is bound by way of another one, which is overwritten, restored and removed. -/
def roundabout : List Action :=
  [.set ['X'] (.text ['4']) .ordinary, .set ['Y'] (.list []) .ordinary,
    .execute ⟨.sum, "Sum".toList, [['<', 'X', '>'], ['6']], some ⟨.capture, ['Y']⟩, false⟩,
    .set ['X'] (.list [['1']]) .capture, .restore 1, .remove ['X'], .log ['a']]

def straight : List Action := [.set ['Y'] (.text ['1', '0']) .capture]

theorem snapshots_show_bindings_alone_roundabout :
    (after roundabout).Fits ∧ (after straight).Fits ∧
      AllRestorable ⟨empty, []⟩ roundabout ∧ AllRestorable ⟨empty, []⟩ straight ∧
      after roundabout ≠ after straight ∧
      (after roundabout).toSnapshot = (after straight).toSnapshot ∧
      Bindings.after roundabout = Bindings.after straight := by
  have fits : (after roundabout).Fits := by decide +kernel
  have otherFits : (after straight).Fits := by decide
  have restorable : AllRestorable ⟨empty, []⟩ roundabout := by
    refine ⟨trivial, trivial, trivial, trivial, ?_, trivial, trivial, trivial⟩
    intro earlier recalled
    cases recalled
    decide +kernel
  have otherRestorable : AllRestorable ⟨empty, []⟩ straight := ⟨trivial, trivial⟩
  have sameVariables : (after roundabout).variables = (after straight).variables := by
    decide +kernel
  have sameCaptures : (after roundabout).captures = (after straight).captures := by decide +kernel
  obtain ⟨lookups, one⟩ := snapshots_show_bindings_alone fits otherFits
  have same : (after roundabout).toSnapshot = (after straight).toSnapshot := by
    apply lookups.mpr
    intro name
    rw [sameVariables, sameCaptures]
    exact ⟨rfl, rfl⟩
  exact ⟨fits, otherFits, restorable, otherRestorable, by decide +kernel, same,
    (one restorable otherRestorable).mp same⟩

end Store

end LineScript
