/-!
# Shutdown handles

Handles with which shutdown is asked for, and tokens by which it is noticed. A handle holds a
cancellation token. Its clones hold clones of that token and the tokens it gives out are clones of
it, so a handle that is made anew founds a family of handles and tokens.

Cancellation tokens come from elsewhere: a `TokenLibrary` says what can be done with them.
`TokenLibrary.flags` is the one that runs; its tokens are the numbers of flags that clones share.

`ShutdownHandles.run` follows a list of operations on handles and tokens, which are known by their
places in the order of their making. An operation on a place that there is not changes nothing.
-/

namespace TrafficRouter

/-! ## Cancellation tokens -/

/-- What can be done with cancellation tokens, child tokens aside, which handles do not make. `World`
is the state of all tokens together. -/
structure TokenLibrary (World Token : Type) where
  /-- The state before any token is made. -/
  start : World
  create : World → Token × World
  clone : World → Token → Token × World
  cancel : World → Token → World
  isCancelled : World → Token → Bool

/-- Tokens are the numbers of flags. A clone has the flag of its original; a flag goes up when one
of its tokens is cancelled, and never comes down. -/
def TokenLibrary.flags : TokenLibrary (List Bool) Nat where
  start := []
  create w := (w.length, w ++ [false])
  clone w t := (t, w)
  cancel w t := w.set t true
  isCancelled w t := w[t]?.getD false

/-! ## Handles -/

/-- A handle with which shutdown is asked for. -/
structure ShutdownHandle (Token : Type) where
  token : Token
  deriving DecidableEq, Repr

section Handle

variable {World Token : Type} (lib : TokenLibrary World Token) (w : World)

namespace ShutdownHandle

/-- A handle of a family of its own. -/
def create : ShutdownHandle Token × World := (⟨(lib.create w).1⟩, (lib.create w).2)

variable (h : ShutdownHandle Token)

/-- Another handle of the same family. -/
def clone : ShutdownHandle Token × World :=
  (⟨(lib.clone w h.token).1⟩, (lib.clone w h.token).2)

/-- A token that is cancelled when shutdown is asked for. -/
def giveToken : Token × World := lib.clone w h.token

/-- Shutdown is asked for. -/
def trigger : World := lib.cancel w h.token

def isTriggered : Bool := lib.isCancelled w h.token

end ShutdownHandle

/-- The state of all tokens, and the handles and the tokens given out so far. Unless said otherwise
there is one handle. -/
structure ShutdownHandles where
  world : World := (ShutdownHandle.create lib lib.start).2
  handles : List (ShutdownHandle Token) := [(ShutdownHandle.create lib lib.start).1]
  tokens : List Token := []
  deriving DecidableEq, Repr

end Handle

/-- What can be done with handles and tokens. -/
inductive ShutdownAction where
  | clone (handle : Nat)
  /-- A handle of a family of its own. -/
  | new
  | token (handle : Nat)
  | trigger (handle : Nat)
  | cancel (token : Nat)
  deriving DecidableEq, Repr

namespace ShutdownHandles

variable {World Token : Type} {lib : TokenLibrary World Token}

/-- No handle yet. Others may have tokens. -/
def empty (lib : TokenLibrary World Token) (w : World) : ShutdownHandles lib :=
  { world := w, handles := [] }

/-- The handles with one more, and the state that its making left. -/
def addHandle (s : ShutdownHandles lib) (made : ShutdownHandle Token × World) :
    ShutdownHandles lib :=
  { s with world := made.2, handles := s.handles ++ [made.1] }

/-- The tokens with one more, and the state that its making left. -/
def addToken (s : ShutdownHandles lib) (made : Token × World) : ShutdownHandles lib :=
  { s with world := made.2, tokens := s.tokens ++ [made.1] }

/-- The state after one operation. -/
def act (s : ShutdownHandles lib) : ShutdownAction → ShutdownHandles lib
  | .clone i =>
    match s.handles[i]? with
    | some h => s.addHandle (h.clone lib s.world)
    | none => s
  | .new => s.addHandle (ShutdownHandle.create lib s.world)
  | .token i =>
    match s.handles[i]? with
    | some h => s.addToken (h.giveToken lib s.world)
    | none => s
  | .trigger i =>
    match s.handles[i]? with
    | some h => { s with world := h.trigger lib s.world }
    | none => s
  | .cancel i =>
    match s.tokens[i]? with
    | some t => { s with world := lib.cancel s.world t }
    | none => s

/-- The state after some operations. -/
def run (s : ShutdownHandles lib) (actions : List ShutdownAction) : ShutdownHandles lib :=
  actions.foldl act s

/-- Whether each handle reads as triggered. -/
def triggered (s : ShutdownHandles lib) : List Bool :=
  s.handles.map (·.isTriggered lib s.world)

/-- Whether each token reads as cancelled. -/
def cancelled (s : ShutdownHandles lib) : List Bool := s.tokens.map (lib.isCancelled s.world)

end ShutdownHandles

/-- Handles whose tokens are flags. -/
abbrev Shutdown := ShutdownHandles TokenLibrary.flags

end TrafficRouter
