import HelpQuery.Index.Score

/-!
# Unions of terms

A union of plain terms is searched by cursors, one for each term, which run over the documents of a
segment that have it.  The cursors are kept in the order of their documents.  At every step those at
the least document make up a group:

    the search ends where the first bound of the group does not count
    one cursor of a group is moved on where no sum of its scores can count
    otherwise the document is found if the sum counts, and the whole group is moved on

Bounds are exact for boosts that are not negative, so all documents with a term are found then.
-/

namespace HelpQuery

/-! ## Cursors -/

/-- A cursor: the documents ahead of it, by their numbers in the segment, with their scores. -/
structure Cursor where
  /-- What stands for the score in any document. -/
  bound : Single
  /-- The greatest score in the segment. -/
  greatest : Single
  ahead : List (Nat × Single)

namespace Cursor

/-- The cursor of a term at the start of a segment. -/
def ofTerm (segment : List StoredDocument) (lookup : Lookup) (weight : LeafWeight) : Cursor :=
  let ahead := segment.zipIdx.filterMap fun (d, number) =>
    if lookup.holds d.postings then some (number, weight.score lookup d.postings) else none
  let greatest := match ahead with
    | [] => .ofNat 0
    | (_, score) :: rest => rest.foldl (fun x (_, y) => if x.lt y then y else x) score
  ⟨weight.bound, greatest, ahead⟩

/-- The number of the document that a cursor is at, unless it has passed the last one. -/
def document? (c : Cursor) : Option Nat := c.ahead.head?.map (·.1)

/-- The score in the document that a cursor is at. -/
def score? (c : Cursor) : Option Single := c.ahead.head?.map (·.2)

/-- The cursor at the next of its documents. -/
def advance (c : Cursor) : Cursor := { c with ahead := c.ahead.tail }

/-- The cursor at the first of its documents that does not come before a place. -/
def seek (place? : Option Nat) (c : Cursor) : Cursor :=
  { c with ahead := c.ahead.dropWhile fun (number, _) => place?.all (number < ·) }

/-- Whether a cursor is not behind another one; past the last document is behind all others. -/
def atMost (c d : Cursor) : Bool :=
  match c.document?, d.document? with
  | _, none => true
  | none, some _ => false
  | some i, some j => i ≤ j

end Cursor

/-! ## Lists of cursors -/

/-- Cursors by their documents; those at the same one stay as they are. -/
def sortCursors (cursors : List Cursor) : List Cursor := cursors.mergeSort Cursor.atMost

/-- Puts a cursor before the first of a sorted list that it is not behind. -/
def insertCursor (c : Cursor) (cursors : List Cursor) : List Cursor :=
  cursors.takeWhile (!c.atMost ·) ++ c :: cursors.dropWhile (!c.atMost ·)

/-- Takes the cursor with the greatest bound out of a list, the last one of several. -/
def takeGreatest (first : Cursor) : List Cursor → Cursor × List Cursor
  | [] => (first, [])
  | next :: rest =>
    let (greatest, others) := takeGreatest next rest
    if greatest.bound.lt first.bound then (first, next :: rest) else (greatest, first :: others)

/-- Drops the cursors that have passed their last document, filling each gap with the last one of
the list. -/
def dropFinished : List Cursor → List Cursor
  | [] => []
  | c :: rest =>
    if c.document?.isSome then c :: dropFinished rest
    else
      match _h : rest.getLast? with
      | none => []
      | some last => dropFinished (last :: rest.dropLast)
termination_by cursors => cursors.length
decreasing_by
  · simp
  · cases rest with
    | nil => simp at _h
    | cons => simp

/-! ## Searching -/

/-- The numbers of the documents found from sorted cursors on.  Every step takes a document off a
cursor, so a budget above the number of all that are ahead lasts to the end. -/
def unionHits : Nat → List Cursor → List Nat
  | 0, _ => []
  | _, [] => []
  | budget + 1, first :: rest =>
    match first.document? with
    | none => []
    | some number =>
      if !scoreCounts first.bound then []
      else
        let here := rest.takeWhile (·.document? = some number)
        let beyond := rest.dropWhile (·.document? = some number)
        if (scoreSum ((first :: here).map Cursor.greatest)).le (-Single.greatest) then
          let (skipping, waiting) := takeGreatest first here
          let target? := beyond.head?.bind Cursor.document?
          unionHits budget (insertCursor (skipping.seek target?) (waiting ++ beyond))
        else
          let next := sortCursors (dropFinished ((first :: here).map Cursor.advance ++ beyond))
          if scoreCounts (scoreSum ((first :: here).filterMap Cursor.score?)) then
            number :: unionHits budget next
          else unionHits budget next

/-- The documents of a segment that cursors at its start find. -/
def findUnion (segment : List StoredDocument) (cursors : List Cursor) : List StoredDocument :=
  let ahead := cursors.foldl (fun n c => n + c.ahead.length) 0
  (unionHits (ahead + 1) (sortCursors cursors)).filterMap (segment[·]?)

/-! ## Which queries are unions -/

namespace EngineQuery

mutual

/-- The cursor of a query that is a single leaf inside groups of one clause.  The leaf has to be a
term that the segment has, in a field where its places are counted. -/
def cursor? (segment : List StoredDocument) : EngineQuery LeafWeight → Option Cursor
  | leaf (.term field text) (.relevance weight average true) =>
    let c := Cursor.ofTerm segment (.term field text) (.relevance weight average true)
    if c.document?.isSome then some c else none
  | leaf .. => none
  | boolean cs => soleCursor? segment cs

def soleCursor? (segment : List StoredDocument) :
    List (Clause (EngineQuery LeafWeight)) → Option Cursor
  | [⟨requirement, query⟩] =>
    if requirement = .prohibited then none else query.cursor? segment
  | _ => none

end

/-- The cursors of a query that is a union of two or more terms. -/
def cursors? (segment : List StoredDocument) : EngineQuery LeafWeight → Option (List Cursor)
  | boolean (c :: more :: cs) =>
    (c :: more :: cs).mapM fun clause =>
      if clause.requirement = .optional then clause.query.cursor? segment else none
  | _ => none

/-- The documents of a segment that a query finds, in order. -/
def search (segment : List StoredDocument) (q : EngineQuery LeafWeight) : List StoredDocument :=
  match q.cursors? segment with
  | some cursors => findUnion segment cursors
  | none => q.scan segment

end EngineQuery

end HelpQuery
