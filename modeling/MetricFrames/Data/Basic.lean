import MetricFrames.Binary64.Basic
import MetricFrames.Time.Timestamp

/-!
# Dynamic data

What a file, a response body or a stored setting may hold before anything is known about its
shape. Members of an object keep their order; their names are distinct, and a later value for a
name takes the place of the earlier one (`Members.put`). Files may also hold mappings whose keys
are not all texts, which are kept apart as `mapping`.
-/

namespace MetricFrames

/-- A value whose shape is not known yet. -/
inductive Data where
  | null
  | bool (b : Bool)
  | int (i : Int)
  | float (x : Binary64)
  | text (s : String)
  | time (t : Timestamp)
  | date (d : Date)
  | list (items : List Data)
  | object (members : List (String × Data))
  | mapping (members : List (Data × Data))

instance : Inhabited Data := ⟨.null⟩

/-- Named values in order. -/
abbrev Members (α : Type) := List (String × α)

namespace Members

variable {α : Type}

/-- The value of a name. -/
def get? (name : String) (ms : Members α) : Option α :=
  (ms.find? fun m => m.1 == name).map (·.2)

/-- Gives a name a value, in the place of its earlier value or at the end. -/
def put (name : String) (value : α) : Members α → Members α
  | [] => [(name, value)]
  | m :: ms => if m.1 = name then (name, value) :: ms else m :: put name value ms

/-- Whether a name has a value. -/
def has (name : String) (ms : Members α) : Bool := (ms.get? name).isSome

/-- The members with the names that are not listed. -/
def without (names : List String) (ms : Members α) : Members α :=
  ms.filter fun m => !names.contains m.1

@[simp] theorem get?_nil (name : String) : get? name ([] : Members α) = none := rfl

theorem get?_cons (name : String) (m : String × α) (ms : Members α) :
    get? name (m :: ms) = if m.1 = name then some m.2 else get? name ms := by
  by_cases h : m.1 = name <;> simp [get?, h]

theorem get?_put (name other : String) (value : α) (ms : Members α) :
    get? other (put name value ms) = if name = other then some value else get? other ms := by
  induction ms with
  | nil => simp [put, get?_cons]
  | cons m ms ih =>
    by_cases h : m.1 = name
    · by_cases e : name = other <;> simp [put, h, get?_cons, e]
    · simp only [put, h, if_false, get?_cons, ih]
      by_cases e : m.1 = other
      · have : name ≠ other := fun hn => h (by rw [e, hn])
        simp [e, this]
      · simp [e]

theorem mem_names_put (name other : String) (value : α) (ms : Members α) :
    other ∈ (put name value ms).map (·.1) ↔ other = name ∨ other ∈ ms.map (·.1) := by
  induction ms with
  | nil => simp [put]
  | cons m ms ih =>
    by_cases h : m.1 = name
    · simp [put, h]
    · simp only [put, h, if_false, List.map_cons, List.mem_cons, ih, or_left_comm]

theorem nodup_names_put (name : String) (value : α) {ms : Members α}
    (h : (ms.map (·.1)).Nodup) : ((put name value ms).map (·.1)).Nodup := by
  induction ms with
  | nil => simp [put]
  | cons m ms ih =>
    obtain ⟨hm, hms⟩ := List.nodup_cons.mp h
    by_cases e : m.1 = name
    · simpa only [put, e, if_true, List.map_cons] using h
    · simp only [put, e, if_false, List.map_cons]
      refine List.nodup_cons.mpr ⟨fun hin => ?_, ih hms⟩
      exact ((mem_names_put name m.1 value ms).mp hin).elim e hm

end Members

namespace Data

/-- The name of a value's type in messages. -/
def typeName : Data → String
  | .null => "NoneType"
  | .bool _ => "bool"
  | .int _ => "int"
  | .float _ => "float"
  | .text _ => "str"
  | .time _ => "datetime.datetime"
  | .date _ => "datetime.date"
  | .list _ => "list"
  | .object _ | .mapping _ => "dict"

/-- Whether a value counts as given: null, false, zero and whatever is empty do not. -/
def isGiven : Data → Bool
  | .null => false
  | .bool b => b
  | .int i => i ≠ 0
  | .float x => !x.same (.zero false)
  | .text s => s ≠ ""
  | .time _ | .date _ => true
  | .list items => !items.isEmpty
  | .object members => !members.isEmpty
  | .mapping members => !members.isEmpty

/-- The value itself if it counts as given, else another one. -/
def orElse (d other : Data) : Data := if d.isGiven then d else other

/-- The number in a flag, an integer or a finite number, in units. -/
def units? : Data → Option Int
  | .bool b => some (if b then Binary64.one else 0)
  | .int i => some (i * Binary64.one)
  | .float (.finite negative units _) => some (Binary64.signed negative units)
  | _ => none

/-- The members with textual names of an object or mapping. -/
def members? : Data → Option (Members Data)
  | .object ms => some ms
  | .mapping ms =>
    some (ms.filterMap fun
      | (.text name, value) => some (name, value)
      | _ => none)
  | _ => none

end Data
end MetricFrames
