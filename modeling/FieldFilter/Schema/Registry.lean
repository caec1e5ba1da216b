import FieldFilter.Fault
import FieldFilter.Schema.Field

/-!
# FieldFilter.Schema.Registry — the fields of one schema

A `Registry` holds fields with distinct keys in a fixed order.  `Registry.find` resolves what a user types
for a field, a key or a label, to a key.
-/

namespace FieldFilter

/-- Fields in order, no two with the same key. -/
structure Registry where
  fields : List Field := []
  nodup : (fields.map Field.key).Nodup := by simp

namespace Registry

/-- The registry of no fields. -/
def empty : Registry := {}

instance : Inhabited Registry := ⟨empty⟩

/-- The keys in order. -/
def keys (r : Registry) : List LooseText := r.fields.map Field.key

def size (r : Registry) : Nat := r.fields.length

/-- The field with exactly this key. -/
def get? (r : Registry) (key : LooseText) : Option Field := r.fields.find? (·.key == key)

def contains (r : Registry) (key : LooseText) : Bool := (r.get? key).isSome

/-- The field with exactly this key; a key that is missing is a fault. -/
def get (r : Registry) (key : LooseText) : Except Fault Field :=
  match r.get? key with
  | some f => .ok f
  | none => .error (.unknownField key)

/-- Puts a field at the end, unless its key is taken. -/
def push (r : Registry) (f : Field) : Except Fault Registry :=
  if h : f.key ∈ r.fields.map Field.key then .error (.duplicateField f.key)
  else .ok {
    fields := r.fields ++ [f]
    nodup := by
      rw [List.map_append, List.nodup_append]
      exact ⟨r.nodup, by simp, by
        intro a ha b hb e
        simp only [List.map_cons, List.map_nil, List.mem_singleton] at hb
        exact h (hb ▸ e ▸ ha)⟩ }

/-- The registry of some fields in order; the first key that comes again is a fault. -/
def ofFields (fields : List Field) : Except Fault Registry := fields.foldlM push empty

/-- The key of the field that a text names, by key or else by label, without regard to case or to white
space around the text.  The first field that fits wins; a blank text names none. -/
def find (r : Registry) (text : LooseText) : Option LooseText :=
  let needle := text.strip.lower
  if needle.isEmpty then none
  else
    ((r.fields.find? fun f => f.key.lower == needle).or
      (r.fields.find? fun f => f.label.lower == needle)).map Field.key

/-- The keys that contain the text without regard to case; none for an empty text. -/
def suggestFields (r : Registry) (text : LooseText) : List LooseText :=
  if text.isEmpty then [] else r.keys.filter text.occursInAnyCase

theorem push_fields {r s : Registry} {f : Field} (h : r.push f = .ok s) :
    s.fields = r.fields ++ [f] := by
  unfold push at h
  split at h
  · simp at h
  · cases h; rfl

end Registry
end FieldFilter
