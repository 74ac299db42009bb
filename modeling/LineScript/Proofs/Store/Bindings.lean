import Mathlib.Data.Finmap
import LineScript.Proofs.Store.Partitions
import LineScript.Script.Run

namespace LineScript

abbrev Bindings := Finmap fun _ : Text => Value × Partition

namespace Bindings

def find? (bindings : Bindings) (name : Text) : Option Value :=
  (bindings.lookup name).map Prod.fst

def substitute (bindings : Bindings) (text : Text) : Text :=
  (Template.ofText text).fill (Reference.resolve bindings.find?)

/-- Bindings take no log lines. -/
def context : Context Bindings where
  substitute := substitute
  set := fun bindings name content partition => bindings.insert name (.text content, partition)
  appendLog := fun bindings _ => bindings

end Bindings

namespace Store

def Represents (store : Store) (bindings : Bindings) : Prop :=
  ∀ partition name value, (store.bound partition).get? name = some value ↔
    bindings.lookup name = some (value, partition)

variable {store : Store} {bindings : Bindings}

theorem represents_empty : empty.Represents ∅ := by
  intro partition name value
  have unbound : (empty.bound partition).get? name = none := by
    cases partition <;> rfl
  simp [unbound]

namespace Represents

theorem of_bound_eq {other : Store} (represents : store.Represents bindings)
    (same : other.bound = store.bound) : other.Represents bindings := by
  intro partition name value
  rw [same]
  exact represents partition name value

theorem exclusive (represents : store.Represents bindings) : store.Exclusive := by
  intro name
  cases asVariable : store.variables.get? name with
  | none => exact .inl rfl
  | some value =>
      cases asCapture : store.captures.get? name with
      | none => exact .inr rfl
      | some captured =>
          have ordinary := (represents .ordinary name value).mp asVariable
          have capture := (represents .capture name captured).mp asCapture
          rw [ordinary] at capture
          cases capture

theorem get?_bound (represents : store.Represents bindings) (partition : Partition) (name : Text) :
    (store.bound partition).get? name =
      (bindings.lookup name).bind fun (value, held) =>
        if held = partition then some value else none := by
  apply Option.ext
  intro value
  rw [represents partition name value]
  cases bindings.lookup name with
  | none => simp
  | some binding =>
      obtain ⟨content, held⟩ := binding
      by_cases same : held = partition <;> simp [same]

theorem get?_eq (represents : store.Represents bindings) (name : Text) :
    store.get? name = bindings.find? name := by
  have asVariable : store.variables.get? name = _ := represents.get?_bound .ordinary name
  have asCapture : store.captures.get? name = _ := represents.get?_bound .capture name
  rw [get?, asVariable, asCapture, Bindings.find?]
  cases bindings.lookup name with
  | none => rfl
  | some binding =>
      obtain ⟨value, partition⟩ := binding
      cases partition <;> rfl

theorem substitute_eq (represents : store.Represents bindings) :
    store.substitute = bindings.substitute := by
  funext text
  have same : store.get? = bindings.find? := funext represents.get?_eq
  rw [substitute, Bindings.substitute, same]

theorem isCapture_iff (represents : store.Represents bindings) (name : Text) :
    store.isCapture name = true ↔ ∃ value, bindings.lookup name = some (value, .capture) :=
  NameMap.contains_eq_true_iff.trans (exists_congr (represents .capture name))

theorem mem_bound_iff (represents : store.Represents bindings) (partition : Partition)
    (name : Text) (value : Value) :
    (name, value) ∈ (store.bound partition).entries ↔
      bindings.lookup name = some (value, partition) :=
  NameMap.mem_entries_iff.trans (represents partition name value)

theorem set (represents : store.Represents bindings) (name : Text) (value : Value)
    (partition : Partition) :
    (store.set name value partition).Represents (bindings.insert name (value, partition)) := by
  intro other asked held
  rw [get?_bound_set]
  by_cases same : asked = name
  · subst same
    rw [if_pos rfl, Finmap.lookup_insert]
    by_cases here : other = partition
    · simp [here]
    · simp [here, Ne.symm here]
  · rw [if_neg same, Finmap.lookup_insert_of_ne _ same]
    exact represents other asked held

theorem remove (represents : store.Represents bindings) (name : Text) :
    (store.remove name).Represents (bindings.erase name) := by
  intro partition asked value
  rw [get?_bound_remove represents.exclusive]
  by_cases same : asked = name
  · subst same
    rw [if_pos rfl, Finmap.lookup_erase]
    simp
  · rw [if_neg same, Finmap.lookup_erase_ne same]
    exact represents partition asked value

theorem commit (represents : store.Represents bindings) (statement : Statement)
    (outcome : Outcome) :
    (statement.commit Script.storeContext outcome store).Represents
      (statement.commit Bindings.context outcome bindings) := by
  rw [Statement.commit, Statement.commit]
  cases statement.destination with
  | none => exact represents.of_bound_eq rfl
  | some destination =>
      obtain ⟨partition, name⟩ := destination
      exact (represents.set name (.text outcome.result.write) partition).of_bound_eq rfl

theorem execute (represents : store.Represents bindings) (statement : Statement) :
    (statement.execute Script.storeContext store).2.Represents
      (statement.execute Bindings.context bindings).2 := by
  have same : Script.storeContext.substitute store = Bindings.context.substitute bindings :=
    represents.substitute_eq
  rw [Statement.execute, Statement.execute, same]
  cases statement.evaluate (Bindings.context.substitute bindings) with
  | ok outcome => exact represents.commit statement outcome
  | error _ => exact represents

theorem keys_eq (represents : store.Represents bindings) :
    bindings.keys = (store.variables.names ++ store.captures.names).toFinset := by
  ext name
  rw [Finmap.mem_keys, Finmap.mem_iff, List.mem_toFinset, List.mem_append, NameMap.mem_names_iff,
    NameMap.mem_names_iff]
  constructor
  · intro ⟨⟨value, partition⟩, held⟩
    have found := (represents partition name value).mpr held
    cases partition with
    | ordinary => exact .inl ⟨value, found⟩
    | capture => exact .inr ⟨value, found⟩
  · intro found
    cases found with
    | inl found =>
        obtain ⟨value, asVariable⟩ := found
        exact ⟨(value, .ordinary), (represents .ordinary name value).mp asVariable⟩
    | inr found =>
        obtain ⟨value, asCapture⟩ := found
        exact ⟨(value, .capture), (represents .capture name value).mp asCapture⟩

theorem nodup_names (represents : store.Represents bindings) :
    (store.variables.names ++ store.captures.names).Nodup := by
  apply List.nodup_append'.mpr
  refine ⟨store.variables.nodup_names, store.captures.nodup_names, ?_⟩
  intro name ordinary capture
  obtain ⟨value, asVariable⟩ := NameMap.mem_names_iff.mp ordinary
  obtain ⟨captured, asCapture⟩ := NameMap.mem_names_iff.mp capture
  cases represents.exclusive name with
  | inl absent =>
      rw [absent] at asVariable
      cases asVariable
  | inr absent =>
      rw [absent] at asCapture
      cases asCapture

/-- No name is counted twice, for none is bound in both partitions. -/
theorem size_eq (represents : store.Represents bindings) : store.size = bindings.keys.card := by
  rw [represents.keys_eq, List.toFinset_card_of_nodup represents.nodup_names, List.length_append,
    size, NameMap.size_eq_length_names, NameMap.size_eq_length_names]

end Represents

theorem isEmpty_iff_size_eq_zero (store : Store) : store.isEmpty = true ↔ store.size = 0 := by
  simp [isEmpty, size, NameMap.isEmpty, NameMap.size, List.isEmpty_iff]

end Store

end LineScript
