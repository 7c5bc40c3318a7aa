/-!
Rose trees and their walks. A walk runs an action at every node and, in a monad with failure, stops
at the first action that fails; `preorder` and `postorder` are the orders it goes in.
-/
namespace MiniJava

/-- A value with subtrees in order. -/
inductive Tree (α : Type) where
  | node (value : α) (children : List (Tree α))

namespace Tree

variable {α : Type}

def value : Tree α → α
  | .node value _ => value

def children : Tree α → List (Tree α)
  | .node _ children => children

mutual

/-- The values, each before those of its subtrees. -/
def preorder : Tree α → List α
  | .node value children => value :: preorderList children

def preorderList : List (Tree α) → List α
  | [] => []
  | t :: ts => preorder t ++ preorderList ts

end

mutual

/-- The values, each after those of its subtrees. -/
def postorder : Tree α → List α
  | .node value children => postorderList children ++ [value]

def postorderList : List (Tree α) → List α
  | [] => []
  | t :: ts => postorder t ++ postorderList ts

end

mutual

/-- Run the action at every value, each before those of its subtrees. -/
def walk {m : Type → Type} [Monad m] (act : α → m Unit) : Tree α → m Unit
  | .node value children => do act value; walkList act children

def walkList {m : Type → Type} [Monad m] (act : α → m Unit) : List (Tree α) → m Unit
  | [] => pure ()
  | t :: ts => do walk act t; walkList act ts

end

mutual

/-- Run the action at every value, each after those of its subtrees. -/
def walkPost {m : Type → Type} [Monad m] (act : α → m Unit) : Tree α → m Unit
  | .node value children => do walkPostList act children; act value

def walkPostList {m : Type → Type} [Monad m] (act : α → m Unit) : List (Tree α) → m Unit
  | [] => pure ()
  | t :: ts => do walkPost act t; walkPostList act ts

end

mutual

def find (p : α → Bool) : Tree α → List α
  | .node value children => if p value then value :: findList p children else findList p children

def findList (p : α → Bool) : List (Tree α) → List α
  | [] => []
  | t :: ts => find p t ++ findList p ts

end

mutual

def any (p : α → Bool) : Tree α → Bool
  | .node value children => p value || anyList p children

def anyList (p : α → Bool) : List (Tree α) → Bool
  | [] => false
  | t :: ts => any p t || anyList p ts

end

mutual

def all (p : α → Bool) : Tree α → Bool
  | .node value children => p value && allList p children

def allList (p : α → Bool) : List (Tree α) → Bool
  | [] => true
  | t :: ts => all p t && allList p ts

end

end Tree

end MiniJava
