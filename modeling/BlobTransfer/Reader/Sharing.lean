import BlobTransfer.Adapter.Basic
import BlobTransfer.Reader.Use

/-!
A store that others use while a reader reads from it. The reader comes to the store only with its
requests, so what others do lies before one of them or after the last.
-/

namespace BlobTransfer

inductive StoreCall where
  | put (data : Bytes)
  | stage (ended : Option ScopeEnd) (id : String) (data : Bytes) (mark : ServiceMark)
  | commit (ended : Option ScopeEnd) (list : BlockList) (mark : ServiceMark)

def BlobStore.perform (store : BlobStore) : StoreCall → BlobStore
  | .put data => (store.put data).2
  | .stage ended id data mark => (store.stage ended id data mark).2
  | .commit ended list mark => (store.commit ended list mark).2

structure StoreGet where
  store : BlobStore
  span : Span

def StoreGet.outcome (get : StoreGet) : Except TransferError LiveResponse :=
  get.store.read get.span

structure SharedStore where
  store : BlobStore
  /-- What others do before each request that is still to come. -/
  ahead : List (List StoreCall) := []
  gets : List StoreGet := []

namespace SharedStore

def current (shared : SharedStore) : BlobStore :=
  (shared.ahead.headD []).foldl BlobStore.perform shared.store

def getter : Getter SharedStore := fun shared span =>
  let (reply, store) := BlobStore.getter shared.current span
  (reply, {
    store
    ahead := shared.ahead.tail
    gets := shared.gets ++ [⟨shared.current, span⟩] })

end SharedStore

def ReaderUse.sparing {Service : Type} (service : Service) : ReaderUse Unit → ReaderUse Service
  | .read size abandonAt => .read size abandonAt
  | .close => .close
  | .force => .force
  | .forceAt time => .forceAt time
  | .meanwhile timeline () => .meanwhile timeline service

def ReadSession.usesSparing {Service : Type} (session : ReadSession Service)
    (getter : Getter Service) (scope : Scope) :
    List (ReaderUse Unit) → Option (Bytes × ReadSession Service)
  | [] => some ([], session)
  | next :: later => do
      let (bytes, session) ← session.use getter scope (next.sparing session.service)
      let (others, session) ← session.usesSparing getter scope later
      return (bytes ++ others, session)

end BlobTransfer
