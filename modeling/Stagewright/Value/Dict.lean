/-!
Dictionaries that keep their keys in the order of first insertion. Overwriting a key leaves it
where it stands.
-/

namespace Stagewright

abbrev Dict (κ α : Type) := List (κ × α)

namespace Dict

variable {κ α : Type} [BEq κ]

def get? (d : Dict κ α) (key : κ) : Option α := (d.find? (·.1 == key)).map (·.2)

def contains (d : Dict κ α) (key : κ) : Bool := d.any (·.1 == key)

/-- Replaces the value of a key in place, or appends the key. -/
def put : Dict κ α → κ → α → Dict κ α
  | [], key, value => [(key, value)]
  | (k, v) :: rest, key, value =>
    if k == key then (k, value) :: rest else (k, v) :: put rest key value

/-- Puts the entries of `more` one after the other. -/
def update (d more : Dict κ α) : Dict κ α := more.foldl (fun d e => d.put e.1 e.2) d

def erase (d : Dict κ α) (key : κ) : Dict κ α := d.filter fun e => !(e.1 == key)

def keys (d : Dict κ α) : List κ := d.map (·.1)

end Dict

end Stagewright
