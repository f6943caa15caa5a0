import Admission.Feed.Item

/-!
# Streams

A watch of a feed is a stream of items with one writer and one reader. Items that were written
can still be read after the writer is gone; nothing can be written once the reader is gone.
-/

namespace Admission

structure Stream where
  /-- The items not yet read, the oldest first. -/
  items : List FeedItem := []
  hasWriter : Bool := true
  hasReader : Bool := true
deriving DecidableEq, Repr, Inhabited

namespace Stream

def write (stream : Stream) (item : FeedItem) : Stream :=
  { stream with items := stream.items ++ [item] }

def takeAll (stream : Stream) : Stream × List FeedItem :=
  ({ stream with items := [] }, stream.items)

/-- Takes out the oldest items, up to some number of them. -/
def take (stream : Stream) (count : Nat) : Stream × List FeedItem :=
  ({ stream with items := stream.items.drop count }, stream.items.take count)

def endWriting (stream : Stream) : Stream :=
  { stream with hasWriter := false }

/-- The reader leaves, and what it has not read is lost. -/
def endReading (stream : Stream) : Stream :=
  { stream with hasReader := false, items := [] }

end Stream

end Admission
