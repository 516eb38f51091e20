import RecordSearch.Text.Basic

/-! Values under names, in the order in which the names came in. -/
namespace RecordSearch

/-- Values under names. -/
abbrev Named (α : Type) := List (Text × α)

namespace Named

variable {α : Type}

/-- Puts a value under a name. A name that has one already keeps its place. -/
def set (name : Text) (value : α) : Named α → Named α
  | [] => [(name, value)]
  | (other, old) :: rest =>
    if other = name then (other, value) :: rest
    else (other, old) :: set name value rest

def get? (named : Named α) (name : Text) : Option α := named.lookup name

def names (named : Named α) : List Text := named.map Prod.fst

def ofList (members : List (Text × α)) : Named α :=
  members.foldl (fun named (name, value) => set name value named) []

theorem get?_set (named : Named α) (name other : Text) (value : α) :
    (named.set name value).get? other = if other = name then some value else named.get? other := by
  induction named with
  | nil => grind [set, get?]
  | cons member rest ih =>
    obtain ⟨first, old⟩ := member
    simp only [get?] at ih
    by_cases h : first = name <;> by_cases ho : other = first <;> grind [set, get?]

end Named
end RecordSearch
