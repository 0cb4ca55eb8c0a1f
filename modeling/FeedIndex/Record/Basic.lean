import FeedIndex.Json.Value
import FeedIndex.Wire.Basic

/-!
# Likes, follows and profiles

The small records, with their readers for every transport and the JSON values they are written as. Fields
that the index does not use are not kept. A self label is a word that an author puts on a post or a profile.
A text of a record has its fields in the order that the record gives them, a value has them by their keys;
what is a part of a post is written for both.
-/

namespace FeedIndex

open Wire (Reading fields required defaulted optionalField listOf)

variable {ω : Type} [Wire ω]

/-- **Reference** — a record that another record points to. -/
structure Reference where
  uri : String
  cid : String
deriving DecidableEq, Repr

/-- Reads a reference. -/
def Reference.reading : Reading ω Reference :=
  fields ⟨"", ""⟩ [
    required "uri" Wire.text fun uri ref => { ref with uri },
    defaulted "cid" Wire.text fun cid ref => { ref with cid }]

/-- A reference as an object. -/
def Reference.write (arrange : Json.Arrangement) (ref : Reference) : Json.Value :=
  .object (arrange [("uri", .text ref.uri), ("cid", .text ref.cid)])

/-- **SelfLabels** — the labels an author gives, and the kind of list they stand in. -/
structure SelfLabels where
  kind : String
  values : List String
deriving DecidableEq, Repr

/-- Reads one label. -/
def SelfLabels.label : Reading ω String := fields "" [required "val" Wire.text fun val _ => val]

/-- Reads labels. -/
def SelfLabels.reading : Reading ω SelfLabels :=
  fields ⟨"", []⟩ [
    defaulted "$type" Wire.text fun kind labels => { labels with kind },
    defaulted "values" (listOf SelfLabels.label) fun values labels => { labels with values }]

/-- Labels as an object. -/
def SelfLabels.write (arrange : Json.Arrangement) (labels : SelfLabels) : Json.Value :=
  .object (arrange [("$type", .text labels.kind),
    ("values", .array (labels.values.map fun val => .object (arrange [("val", .text val)])))])

/-- **Like** — one record likes another. -/
structure Like where
  subject : Reference
  createdAt : String
deriving DecidableEq, Repr

/-- Reads a like. -/
def Like.reading : Reading ω Like :=
  fields ⟨⟨"", ""⟩, ""⟩ [
    required "subject" Reference.reading fun subject like => { like with subject },
    required "createdAt" Wire.text fun createdAt like => { like with createdAt }]

/-- A like as a value. -/
def Like.toValue (like : Like) : Json.Value :=
  .ofMembers [("subject", like.subject.write Keyed.sorted), ("createdAt", .text like.createdAt)]

/-- **Follow** — an account follows another. -/
structure Follow where
  subject : String
  createdAt : String
deriving DecidableEq, Repr

/-- Reads a follow. -/
def Follow.reading : Reading ω Follow :=
  fields ⟨"", ""⟩ [
    required "subject" Wire.text fun subject follow => { follow with subject },
    required "createdAt" Wire.text fun createdAt follow => { follow with createdAt }]

/-- A follow as a value. -/
def Follow.toValue (follow : Follow) : Json.Value :=
  .ofMembers [("subject", .text follow.subject), ("createdAt", .text follow.createdAt)]

/-- **Profile** — how an account presents itself. -/
structure Profile where
  displayName : Option String
  description : Option String
  labels : Option SelfLabels
  createdAt : Option String
deriving DecidableEq, Repr

/-- Reads a profile. -/
def Profile.reading : Reading ω Profile :=
  fields ⟨none, none, none, none⟩ [
    optionalField "displayName" Wire.text fun displayName profile => { profile with displayName },
    optionalField "description" Wire.text fun description profile => { profile with description },
    optionalField "labels" SelfLabels.reading fun labels profile => { profile with labels },
    optionalField "createdAt" Wire.text fun createdAt profile => { profile with createdAt }]

/-- The labels of a profile, whatever kind of list they stand in. -/
def Profile.selfLabels (profile : Profile) : List String := (profile.labels.map (·.values)).getD []

/-- A profile as a value, with its labels once more as a plain list. -/
def Profile.toValue (profile : Profile) : Json.Value :=
  .ofMembers [("displayName", .optionalText profile.displayName),
    ("description", .optionalText profile.description),
    ("labels", (profile.labels.map (SelfLabels.write Keyed.sorted)).getD .null),
    ("createdAt", .optionalText profile.createdAt),
    ("self_labels", .texts profile.selfLabels)]

end FeedIndex
