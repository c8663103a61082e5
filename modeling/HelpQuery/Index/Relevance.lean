import HelpQuery.Index.Engine
import HelpQuery.Number.Logarithm

/-!
# Relevance

The score of a leaf in a document.  That of a pattern is its boost.  That of a term or a phrase is
its weight, which is greater the fewer documents have its terms, times its saturation, which grows
with the places it is found at and is smaller the longer the field of the document is:

    weight     = Σ ln (1 + (N - n + 1/2) / (n + 1/2)) · (1 + k) · boost
    saturation = f / (f + k · (1/4 + 3/4 · length / average))

Every operation on 32-bit values is rounded.
-/

namespace HelpQuery

/-! ## Counting -/

/-- The number of terms of a field in a document. -/
def StoredDocument.length (d : StoredDocument) (field : String) : Nat :=
  (d.postings field).toList.length

/-- A length as it is kept with a document: exact below 40, and beyond that what it exceeds 24 by is
cut to its four leading bits. -/
def keptLength (length : Nat) : Nat :=
  let excess := length - 24
  if length < 40 then length
  else
    let unit := twoPow (excess.log2 - 3)
    24 + excess / unit * unit

/-- The greatest length that can be kept. -/
def greatestLength : Nat := 2013265944

/-- The number of places where a term or a phrase is found in its field. -/
def Lookup.count (postings : String → Postings) : Lookup → Nat
  | term field text => (postings field).terms.count text
  | phrase field terms => (postings field).phraseCount terms
  | _ => 0

/-- The kept length of the field a term or a phrase is looked for in. -/
def Lookup.keptLength (postings : String → Postings) : Lookup → Nat
  | term field _ | phrase field _ => HelpQuery.keptLength (postings field).toList.length
  | _ => 0

/-! ## Statistics of an index -/

/-- The number of documents that have a term in a field. -/
def documentCount (documents : List StoredDocument) (field text : String) : Nat :=
  documents.countP fun d => (Lookup.term field text).holds d.postings

/-- The mean number of terms of a field. -/
def averageLength (documents : List StoredDocument) (field : String) : Single :=
  .ofNat (documents.foldl (fun n d => n + d.length field) 0) / .ofNat documents.length

/-- How rare a term is that `found` of `total` documents have. -/
def rarity (total found : Nat) : Single :=
  let half : Single := .ofFraction false 1 2
  Binary.ln (.ofNat 1 + (.ofNat (total - found) + half) / (.ofNat found + half))

/-- The rarity of a list of terms of a field, added up. -/
def raritySum (documents : List StoredDocument) (field : String) (terms : List String) : Single :=
  terms.foldl (fun x text => x + rarity documents.length (documentCount documents field text))
    (.ofNat 0)

/-! ## Scores of leaves -/

/-- How slowly a saturation grows. -/
def saturationRate : Single := .ofFraction false 12 10

/-- The part of its greatest value that a number of places comes to in a field with a length. -/
def saturation (average : Single) (length places : Nat) : Single :=
  let relative := .ofFraction false 3 4 * .ofNat length / average
  let norm := saturationRate * (.ofFraction false 1 4 + relative)
  .ofNat places / (.ofNat places + norm)

/-- What the score of a leaf in a document is computed from. -/
inductive LeafWeight where
  /-- The same in all documents. -/
  | constant (score : Single)
  /-- By saturation; where places are not `counted` one stands for all of them. -/
  | relevance (weight average : Single) (counted : Bool)

namespace LeafWeight

/-- The weight of some terms of a field. -/
def ofTerms (s : Schema) (documents : List StoredDocument) (field : String) (terms : List String)
    (boost : Single) : LeafWeight :=
  .relevance (raritySum documents field terms * (.ofNat 1 + saturationRate) * boost)
    (averageLength documents field)
    (match s.kind? field with
      | some (.text (some indexing)) => indexing.record != .basic
      | _ => false)

/-- The weight of a leaf with a boost in an index. -/
def ofBoost (s : Schema) (documents : List StoredDocument) (lookup : Lookup) (boost : Single) :
    LeafWeight :=
  match lookup with
  | .term field text => ofTerms s documents field [text] boost
  | .phrase field terms => ofTerms s documents field terms boost
  | .regex .. | .nothing => constant boost

/-- The score of a leaf in a document that it holds of, given by its postings. -/
def score (lookup : Lookup) (postings : String → Postings) : LeafWeight → Single
  | constant score => score
  | relevance weight average counted =>
    weight * saturation average (lookup.keptLength postings)
      (if counted then lookup.count postings else 1)

/-- The score in the longest field with as many places, which stands for all documents. -/
def bound : LeafWeight → Single
  | constant score => score
  | relevance weight average _ => weight * saturation average greatestLength greatestLength

end LeafWeight

end HelpQuery
