/-! Lists of named entries in the order in which the names first came. A name that comes again
replaces its entry where it stands. -/
namespace SqlGateway.Assoc

/-- The entry `name` with a new content in its place, or a new last entry. -/
def put (name : String) (a : α) : List (String × α) → List (String × α)
  | [] => [(name, a)]
  | (other, b) :: rest => if other = name then (other, a) :: rest else (other, b) :: put name a rest

def putAll (pairs entries : List (String × α)) : List (String × α) :=
  pairs.foldl (fun entries pair => put pair.1 pair.2 entries) entries

def ofPairs (pairs : List (String × α)) : List (String × α) := putAll pairs []

def get? (name : String) : List (String × α) → Option α
  | [] => none
  | (other, a) :: rest => if other = name then some a else get? name rest

def names (entries : List (String × α)) : List String := entries.map Prod.fst

end SqlGateway.Assoc
