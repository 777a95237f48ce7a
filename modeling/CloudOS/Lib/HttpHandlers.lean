import Mathlib.Data.List.Basic

/-!
# Handlers of a web server and the middlewares around them

A handler gets a request, the values its callers have put in the context, and
the world, and answers with what it writes, in order, and the world it leaves.
A handler that panics has written a part of its answer.
-/

set_option autoImplicit false

namespace CloudOS.Lib.HttpHandlers

inductive Json where
  | text (content : String)
  | number (n : Int)
  | array (items : List Json)
  | object (fields : List (String × Json))

inductive Body where
  | text (content : String)
  | json (content : Json)

inductive Write where
  | header (name value : String)
  | status (code : Nat)
  | body (content : Body)

structure Served (World : Type) where
  writes : List Write
  panic : Option String
  world : World

section Handlers

variable {Request Context World Outer : Type}

def Served.after (writes : List Write) (served : Served World) : Served World :=
  { served with writes := writes ++ served.writes }

@[simp] theorem Served.after_world (writes : List Write) (served : Served World) :
    (served.after writes).world = served.world := rfl

def Served.mapWrites (change : List Write → List Write) (served : Served World) : Served World :=
  { served with writes := change served.writes }

@[simp] theorem Served.mapWrites_world (change : List Write → List Write)
    (served : Served World) : (served.mapWrites change).world = served.world := rfl

def Served.mapWorld (rest : World → Outer) (served : Served World) : Served Outer :=
  ⟨served.writes, served.panic, rest served.world⟩

@[simp] theorem Served.mapWorld_world (rest : World → Outer) (served : Served World) :
    (served.mapWorld rest).world = rest served.world := rfl

def answer (writes : List Write) (w : World) : Served World := ⟨writes, none, w⟩

@[simp] theorem answer_world (writes : List Write) (w : World) : (answer writes w).world = w := rfl

def panicked (message : String) (w : World) : Served World := ⟨[], some message, w⟩

@[simp] theorem panicked_world (message : String) (w : World) :
    (panicked message w).world = w := rfl

abbrev Handler (Request Context World : Type) : Type :=
  Request → Context → World → Served World

abbrev Middleware (Request Context World : Type) : Type :=
  Handler Request Context World → Handler Request Context World

/-- The middlewares around a handler, the first of them outermost. -/
def wrap (middlewares : List (Middleware Request Context World))
    (handler : Handler Request Context World) : Handler Request Context World :=
  middlewares.foldr (fun middleware inner => middleware inner) handler

@[simp] theorem wrap_nil (handler : Handler Request Context World) : wrap [] handler = handler :=
  rfl

@[simp] theorem wrap_cons (middleware : Middleware Request Context World)
    (rest : List (Middleware Request Context World)) (handler : Handler Request Context World) :
    wrap (middleware :: rest) handler = middleware (wrap rest handler) := rfl

theorem foldl_reverse_eq_wrap (middlewares : List (Middleware Request Context World))
    (handler : Handler Request Context World) :
    middlewares.reverse.foldl (fun inner middleware => middleware inner) handler =
      wrap middlewares handler := by
  rw [List.foldl_reverse, wrap]

end Handlers

end CloudOS.Lib.HttpHandlers
