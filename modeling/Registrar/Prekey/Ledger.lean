import Registrar.Failure

/-!
The ledger of one role's prekey ids: which were handed out, and which keys are in use.

Requests are data, so that a ledger in memory and one in a database answer the same questions.
-/

namespace Registrar.Ledger

/--
Hands out the `count` ids after `counter`, the last one handed out so far. The result is the first
of them and the new value of the counter.
-/
def reserve (counter count : UInt32) (kind : String) : Except KeyError (UInt32 × UInt32) :=
  if count = 0 then .error (.prekey ("cannot reserve zero " ++ kind ++ " ids"))
  else if counter.toNat + count.toNat < UInt32.size then .ok (counter + 1, counter + count)
  else .error (.prekey (kind ++ " id space exhausted"))

inductive Space where
  | signed
  | oneTime
  /-- encapsulation keys, the last resort among them -/
  | kyber
  deriving Repr, DecidableEq

def Space.kind : Space → String
  | .signed => "signed prekey"
  | .oneTime => "one-time prekey"
  | .kyber => "kyber prekey"

inductive Pointer where
  /-- the signed prekey in use -/
  | activeSigned
  | lastResort
  deriving Repr, DecidableEq

inductive Request where
  /-- hand out ids of a space -/
  | reserve (space : Space) (count : UInt32)
  | pointer (p : Pointer)
  | setPointer (p : Pointer) (id : UInt32)
  /-- whether the server knows the signed prekey -/
  | isRegistered
  | setRegistered (value : Bool)
  deriving Repr, DecidableEq

@[reducible]
def Request.Reply : Request → Type
  | .reserve _ _ => UInt32
  | .pointer _ => Option UInt32
  | .setPointer _ _ => Unit
  | .isRegistered => Bool
  | .setRegistered _ => Unit

structure Memory where
  signed : UInt32 := 0
  oneTime : UInt32 := 0
  kyber : UInt32 := 0
  activeSigned : Option UInt32 := none
  lastResort : Option UInt32 := none
  registered : Bool := false
  deriving Repr, DecidableEq

namespace Memory

def counter (m : Memory) : Space → UInt32
  | .signed => m.signed
  | .oneTime => m.oneTime
  | .kyber => m.kyber

def setCounter (m : Memory) (value : UInt32) : Space → Memory
  | .signed => { m with signed := value }
  | .oneTime => { m with oneTime := value }
  | .kyber => { m with kyber := value }

def pointer (m : Memory) : Pointer → Option UInt32
  | .activeSigned => m.activeSigned
  | .lastResort => m.lastResort

def setPointer (m : Memory) (id : UInt32) : Pointer → Memory
  | .activeSigned => { m with activeSigned := some id }
  | .lastResort => { m with lastResort := some id }

/-- Answers a request. A request that fails changes nothing. -/
def answer : (r : Request) → StateT Memory (Except KeyError) r.Reply
  | .reserve space count => fun m =>
    (reserve (m.counter space) count space.kind).map fun (first, last) =>
      (first, m.setCounter last space)
  | .pointer p => fun m => .ok (m.pointer p, m)
  | .setPointer p id => fun m => .ok ((), m.setPointer id p)
  | .isRegistered => fun m => .ok (m.registered, m)
  | .setRegistered value => fun m => .ok ((), { m with registered := value })

end Memory

end Registrar.Ledger
