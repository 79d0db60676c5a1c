set_option autoImplicit false

/-!
# Frames

Every call that is in progress takes a frame, and there are a thousand frames at most.  A pass over
an expression has those that its callers leave to it.  Reading spends them on each call that leads
from one primary to the next (`Reader.primary`).  The other passes go from node to node and spend
the same number on each level of nodes, so that their limits are limits on depth; what is left over
at the deepest level are the calls that a pass makes there besides, and these differ from pass to
pass.
-/

namespace Formula

namespace Frames

/-- How many calls may be in progress at a time. -/
def limit : Nat := 1000

/-- The calls that are in progress around a pass over an expression, its own call included. -/
def callers : Nat := 9

/-- The frames that a pass has for the calls in it. -/
def available : Nat := limit - callers

end Frames

end Formula
