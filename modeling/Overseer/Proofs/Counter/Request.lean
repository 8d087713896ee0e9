import Overseer.Counter.Store

set_option autoImplicit false

namespace Overseer.Counter

inductive Request where
  | allocate
  | begin (id : UInt64)
  | update (id : UInt64) (count : UInt32)
  | read (id : UInt64)
  | list
deriving DecidableEq, Repr

abbrev Reply (ε : Type) : Request → Type
  | .allocate => Except ε UInt64
  | .begin _ => Except ε Unit
  | .update _ _ => Except ε Unit
  | .read _ => Except ε UInt32
  | .list => Except ε (List (UInt64 × UInt32))

def Store.serve (store : Store) : (r : Request) → Host.Action (Reply Failure r)
  | .allocate => store.allocate
  | .begin id => store.begin id
  | .update id count => store.update id count
  | .read id => store.read id
  | .list => store.list

def Reply.mapFailure {ε δ : Type} (f : ε → δ) : (r : Request) → Reply ε r → Reply δ r
  | .allocate, reply => reply.mapError f
  | .begin _, reply => reply.mapError f
  | .update _ _, reply => reply.mapError f
  | .read _, reply => reply.mapError f
  | .list, reply => reply.mapError f

end Overseer.Counter
