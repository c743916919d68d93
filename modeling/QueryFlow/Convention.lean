namespace QueryFlow

/-- Whether a plan node has been lowered. A logical node cannot be compiled. -/
inductive Convention
  | logical
  | physical
  deriving DecidableEq, Repr

namespace Convention

def display : Convention → String
  | logical => "NONE"
  | physical => "PHYSICAL"

def name : Convention → String
  | logical => "logical"
  | physical => "physical"

def all : List Convention := [logical, physical]

end Convention

end QueryFlow
