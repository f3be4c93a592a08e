import BlobTransfer.Reader.Session

/-!
Several readers of one service, by number. A handle that forces a retry may be kept; it stays
with the reader it came from, also once that reader is used up or its number is given to
another one.
-/

namespace BlobTransfer

structure Place where
  number : Nat
  /-- Tells apart readers that had the same number. -/
  opening : Nat
  reader : Option RangeReader
  deriving DecidableEq, Repr

structure ReaderShelf (Service : Type) where
  session : ReadSession Service
  places : List Place := []
  openings : Nat := 0
  handle : Option Nat := none

namespace ReaderShelf

variable {Service : Type}

def place? (shelf : ReaderShelf Service) (number : Nat) : Option Place :=
  shelf.places.find? (·.number = number)

def reader? (shelf : ReaderShelf Service) (number : Nat) : Option RangeReader :=
  (shelf.place? number).bind (·.reader)

def insert (shelf : ReaderShelf Service) (number : Nat) : ReaderShelf Service :=
  { shelf with
    places := ⟨number, shelf.openings, some shelf.session.reader⟩ ::
      shelf.places.filter (·.number ≠ number)
    openings := shelf.openings + 1 }

def update (shelf : ReaderShelf Service) (number : Nat) (session : ReadSession Service)
    (reader : Option RangeReader) : ReaderShelf Service :=
  { shelf with
    session
    places := shelf.places.map fun place =>
      if place.number = number then { place with reader } else place }

def keepHandle (shelf : ReaderShelf Service) (number : Nat) : ReaderShelf Service :=
  { shelf with
    handle := (shelf.place? number).bind fun place =>
      if place.reader.any (·.canForce) then some place.opening else none }

def forceKept (shelf : ReaderShelf Service) : ReaderShelf Service :=
  { shelf with
    places := shelf.places.map fun place =>
      if some place.opening = shelf.handle then
        { place with reader := place.reader.map (·.force) }
      else place }

end ReaderShelf

end BlobTransfer
