import Gleaner.Digest.Md5
import Gleaner.Time.Moment

/-
  What is known about a product from its landing page.

  Key definitions include:
    * `Passage`
    * `Trait`
    * `Offer`
    * `Record`
    * `Record.pageHash`
    * `MediaFile`
    * `Record.mediaFiles`
-/

namespace Gleaner

------------------------------------------------------------
-- Records
------------------------------------------------------------

/- A part of a description: text, or the address of a medium. -/
inductive Passage
  | text (s : String)
  | media (url : String)
deriving DecidableEq, Repr

/-
  A row of the specification: one value or medium in its style,
  and its position among the rows.
-/
structure Trait where
  domain : String
  style : String
  position : String
  value : String
  media : String
deriving DecidableEq, Repr

/- A bundle or a variant that is on offer. -/
structure Offer where
  domain : String
  price : String
  text : String
  media : String
deriving DecidableEq, Repr

/- A product, as its landing page shows it at some moment. -/
structure Record where
  pageUrl : String
  template : String
  cover : List String
  title : String
  price : List String
  currency : String
  description : List Passage
  specification : List Trait
  goods : List Offer
  extractedAt : Moment
deriving DecidableEq, Repr

/- The digest under which a record is kept. -/
def Record.pageHash (r : Record) : String :=
  Md5.hex r.pageUrl

/- A record, and whether it can be used as it is. -/
structure Extraction where
  record : Record
  valid : Bool
deriving DecidableEq, Repr

------------------------------------------------------------
-- Media Files
------------------------------------------------------------

/- A medium to be fetched, and the name of the file it goes to. -/
structure MediaFile where
  url : String
  name : String
deriving DecidableEq, Repr

/- What follows the last dot of a text, with the dot. -/
def suffix (cs : List Char) : List Char :=
  match cs.reverse.dropWhile (· != '.') with
  | [] => []
  | _ :: _ => '.' :: (cs.reverse.takeWhile (· != '.')).reverse

/-
  The name of the file of a medium: the digest of its address,
  with the suffix that the address ends in if it is a known one.
-/
def mediaName (url : String) : String :=
  let ending := String.ofList (suffix url.toList)
  Md5.hex url ++
    (if [".gif", ".png", ".mp4"].contains ending then ending
      else ".jpg")

/- The file of the medium at an address. -/
def MediaFile.ofUrl (url : String) : MediaFile :=
  ⟨url, mediaName url⟩

/- The address of the medium of a passage. -/
def Passage.media? : Passage → Option String
  | .media url => some url
  | .text _ => none

/- All addresses of media in a record, in the order of its parts. -/
def Record.mediaUrls (r : Record) : List String :=
  r.cover ++ r.description.filterMap Passage.media? ++
    r.specification.map (·.media) ++ r.goods.map (·.media)

/- The files of the media in a record, each of them once. -/
def Record.mediaFiles (r : Record) : List MediaFile :=
  (r.mediaUrls.filter (!·.isEmpty)).eraseDups.map MediaFile.ofUrl

end Gleaner
