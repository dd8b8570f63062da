/-!
# Handler chains

A chain consults its handlers in the order in which they were added, and its fallbacks after all
of them. The first one that answers decides.
-/

namespace FacetModel

/-- Handlers, and fallbacks that come after all of them. -/
structure HandlerChain (α : Type) where
  handlers : List α := []
  fallbacks : List α := []
deriving DecidableEq, Repr, Inhabited

namespace HandlerChain

variable {α β : Type}

/-- The chain with one more handler. -/
def push (c : HandlerChain α) (handler : α) : HandlerChain α :=
  { c with handlers := c.handlers ++ [handler] }

/-- The chain with one more fallback. -/
def pushFallback (c : HandlerChain α) (handler : α) : HandlerChain α :=
  { c with fallbacks := c.fallbacks ++ [handler] }

/-- All handlers in the order in which they are consulted. -/
def toList (c : HandlerChain α) : List α := c.handlers ++ c.fallbacks

/-- How many handlers there are. -/
def size (c : HandlerChain α) : Nat := c.toList.length

/-- Whether there is no handler. -/
def isEmpty (c : HandlerChain α) : Bool := c.toList.isEmpty

/-- The answer of the first handler that does not decline. -/
def firstAnswer? (c : HandlerChain α) (ask : α → Option β) : Option β := c.toList.findSome? ask

/-- The handlers that are consulted: those up to the first that does not decline. -/
def consulted (c : HandlerChain α) (ask : α → Option β) : List α :=
  c.toList.takeWhile (fun h => (ask h).isNone) ++ (c.toList.find? fun h => (ask h).isSome).toList

end HandlerChain

end FacetModel
