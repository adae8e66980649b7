import ChatSieve.Value.Coercion

/-!
# Channel state

What is known of channels beyond their messages: the one being watched and
those that are live. The names of channels have no case.
-/

namespace ChatSieve

structure Channels where
  watching : Option String
  live : List String
  deriving DecidableEq, Repr

namespace Channels

def none : Channels := ⟨.none, []⟩

/-- A channel without a name is not watched. -/
def isWatching (s : Channels) (channel : String) : Bool :=
  s.watching.any fun w => !w.isEmpty && sameIgnoringAsciiCase w channel

def isLive (s : Channels) (channel : String) : Bool :=
  s.live.any fun c => sameIgnoringAsciiCase c channel

end Channels

end ChatSieve
