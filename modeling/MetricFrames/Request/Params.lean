import MetricFrames.Data.Text
import MetricFrames.Web.Form

/-!
# Request parameters

An append-only list of named values, in which a name may occur more than once. The encoded form
sorts by name; values of one name keep their order.
-/

namespace MetricFrames

/-- Named values in the order in which they were added. -/
structure RequestParams where
  items : List (String × String) := []
  deriving DecidableEq

namespace RequestParams

/-- Adds a value for a name. -/
def add (ps : RequestParams) (name value : String) : RequestParams := ⟨ps.items ++ [(name, value)]⟩

/-- All values of a name, in order. -/
def getAll (ps : RequestParams) (name : String) : List String :=
  (ps.items.filter fun p => p.1 == name).map (·.2)

/-- The first value of a name, or the empty text. -/
def get (ps : RequestParams) (name : String) : String := (ps.getAll name).headD ""

/-- Whether a name has a value. -/
def contains (ps : RequestParams) (name : String) : Bool := ps.items.any fun p => p.1 == name

/-- How many values there are. -/
def size (ps : RequestParams) : Nat := ps.items.length

/-- The values sorted by name. -/
def sorted (ps : RequestParams) : List (String × String) :=
  ps.items.mergeSort fun p q => p.1 ≤ q.1

/-- The sorted values in form encoding. -/
def encode (ps : RequestParams) : String := String.ofList (Web.formEncode ps.sorted)

/-- The list of pairs as a message cites it. -/
def cited (ps : RequestParams) : String :=
  let pair (p : String × String) : List Char :=
    bracketed '(' ')' [Text.quoted p.1.toList, Text.quoted p.2.toList]
  "RequestParams(" ++ String.ofList (bracketed '[' ']' (ps.items.map pair)) ++ ")"

theorem items_add (ps : RequestParams) (name value : String) :
    (ps.add name value).items = ps.items ++ [(name, value)] := rfl

theorem getAll_add (ps : RequestParams) (name other value : String) :
    (ps.add name value).getAll other =
      ps.getAll other ++ if name = other then [value] else [] := by
  by_cases h : name = other <;> simp [getAll, add, h]

end RequestParams
end MetricFrames
