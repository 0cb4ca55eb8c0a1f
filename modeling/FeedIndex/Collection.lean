/-!
# Collections

An account keeps its records in collections. Four of them are indexed; records of all others pass by.
-/

namespace FeedIndex

/-- **Collection** — what a collection's records are to the index. -/
inductive Collection
  | post
  | like
  | follow
  | profile
  | other
deriving DecidableEq, Repr, Inhabited

namespace Collection

/-- The name of the collection of posts. -/
def postName : String := "app.bsky.feed.post"

/-- The name of the collection of likes. -/
def likeName : String := "app.bsky.feed.like"

/-- The name of the collection of follows. -/
def followName : String := "app.bsky.graph.follow"

/-- The name of the collection of profiles. -/
def profileName : String := "app.bsky.actor.profile"

/-- **ofName** — the collection of a name. -/
def ofName (name : String) : Collection :=
  if name = postName then .post
  else if name = likeName then .like
  else if name = followName then .follow
  else if name = profileName then .profile
  else .other

end Collection

end FeedIndex
