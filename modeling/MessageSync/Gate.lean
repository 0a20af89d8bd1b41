/-!
# The write gate

Operations that store new messages pass through the gate. While it is paused they wait,
and once it is closed they are refused for good.
-/

namespace MessageSync

/-- The state of the write gate. -/
inductive Gate where
  | opened
  | paused
  | closed
deriving DecidableEq

namespace Gate

/-- Makes writers wait; a closed gate stays closed. -/
def disallow : Gate → Gate
  | opened => paused
  | gate => gate

/-- Lets waiting writers through; a closed gate stays closed. -/
def allow : Gate → Gate
  | paused => opened
  | gate => gate

/-- Closes the gate for good. -/
def close (_ : Gate) : Gate := closed

/-- Whether writers pass. -/
def isWritable (g : Gate) : Bool := g = opened

/-- Whether writers are refused. -/
def isClosed (g : Gate) : Bool := g = closed

end Gate

end MessageSync
