import FeedIndex.Proofs.Growth
import FeedIndex.Proofs.Tables.Memory
import FeedIndex.Proofs.Tables.Relational

/-!
# Rows are for good

A row that was added at an address stays there. Requests come later that add the record again, with other content
or with a time of deletion of its own, and none of them is heard. Deletions are, but only the first: the row is
marked with its time, and the mark stays. So the row at an address is told by two requests, the one that added it
and the first deletion after that, whatever else is asked of the store. It is the same for every table and in both
stores.
-/

namespace FeedIndex

variable {L : Schema}

/-! ## One request -/

/-- The request that deletes the record of an address. -/
def Table.deletion : Table → String → StoreOperation
  | .posts, uri => .deletePost uri
  | .likes, uri => .deleteLike uri
  | .follows, uri => .deleteFollow uri

namespace Tables

/-- The row that a request adds at an address, if there is none. -/
def rowAt? (request : StoreOperation) (table : Table) (uri : String) : Option L.Row :=
  (added? request).bind fun (own, address, row) => if own = table ∧ address = uri then some row else none

theorem rowAt?_of_added? {request : StoreOperation} {own : Table} {address : String} {row : L.Row}
    (adds : added? request = some (own, address, row)) (table : Table) (uri : String) :
    rowAt? request table uri = if own = table ∧ address = uri then some row else none := by
  rw [rowAt?, adds, Option.bind_some]

/-- What adds a row deletes none. -/
theorem deleted?_of_rowAt? {request : StoreOperation} {table : Table} {uri : String} {row : L.Row}
    (adds : rowAt? request table uri = some row) : Ledger.deleted? request = none := by
  cases request <;> first | rfl | cases adds

/-- **touch** — what a request makes of the row at an address: a deletion marks the row that is there, and a creation
adds one if there is none. -/
def touch (now : Timestamp) (request : StoreOperation) (table : Table) (uri : String) (row? : Option L.Row) :
    Option L.Row :=
  if Ledger.deleted? request = some (table, uri) then row?.map (·.delete now) else row?.or (rowAt? request table uri)

variable (t : Tables L) (now : Timestamp) {request : StoreOperation} (table : Table) (uri : String)

theorem touch_of_other (adds : added? (L := L) request = none) (deletes : Ledger.deleted? request = none)
    (row? : Option L.Row) : touch now request table uri row? = row? := by
  rw [touch, deletes, if_neg nofun, rowAt?, adds, Option.bind_none, Option.or_none]

theorem row_addRecord {own : Table} {address : String} {row : L.Row}
    (adds : added? request = some (own, address, row)) (deletes : Ledger.deleted? request = none) :
    (t.addRecord own address row).records table uri = touch now request table uri (t.records table uri) := by
  rw [touch, deletes, if_neg nofun, rowAt?_of_added? adds]
  by_cases here : table = own ∧ uri = address
  · obtain ⟨rfl, rfl⟩ := here
    rw [if_pos ⟨rfl, rfl⟩]
    exact if_pos ⟨rfl, rfl⟩
  · rw [if_neg fun there => here ⟨there.1.symm, there.2.symm⟩, Option.or_none]
    exact if_neg here

theorem row_deleteRecord {own : Table} {address : String} (adds : added? (L := L) request = none)
    (deletes : Ledger.deleted? request = some (own, address)) :
    (t.deleteRecord own address now).records table uri = touch now request table uri (t.records table uri) := by
  rw [touch, deletes, rowAt?, adds, Option.bind_none, Option.or_none]
  by_cases here : table = own ∧ uri = address
  · obtain ⟨rfl, rfl⟩ := here
    rw [if_pos rfl]
    exact if_pos ⟨rfl, rfl⟩
  · rw [if_neg fun there => here (by cases there; exact ⟨rfl, rfl⟩)]
    exact if_neg here

/-- A request touches the row at an address and does nothing else to it. -/
theorem row_apply (request : StoreOperation) :
    (t.apply now request).records table uri = touch now request table uri (t.records table uri) := by
  cases request with
  | createPost row => exact row_addRecord t now table uri rfl rfl
  | createLike row => exact row_addRecord t now table uri rfl rfl
  | createFollow row => exact row_addRecord t now table uri rfl rfl
  | deletePost address => exact row_deleteRecord t now table uri rfl rfl
  | deleteLike address => exact row_deleteRecord t now table uri rfl rfl
  | deleteFollow address => exact row_deleteRecord t now table uri rfl rfl
  | putProfile row =>
    rw [touch_of_other now table uri rfl rfl]
    show (t.addProfile row).records table uri = _
    unfold addProfile
    split <;> rfl
  | _ => exact (touch_of_other now table uri rfl rfl _).symm

end Tables

/-! ## Many requests -/

/-- The time at which the record of an address is first deleted. -/
def deletion? (table : Table) (uri : String) (requests : List (Timestamp × StoreOperation)) : Option Timestamp :=
  (requests.find? fun request => Ledger.deleted? request.2 = some (table, uri)).map (·.1)

/-- The row marked at a time, if there is one. -/
def Schema.Row.settle (row : L.Row) (time : Option Timestamp) : L.Row := time.elim row (row.delete ·)

/-- Requests are made one after the other. -/
theorem StoreOperation.runAll_append {σ : Type} [Store σ] (earlier later : List (Timestamp × StoreOperation))
    (store : σ) : (runAll (earlier ++ later) store).2 = (runAll later (runAll earlier store).2).2 := by
  induction earlier generalizing store with
  | nil => rfl
  | cons first rest ih => exact ih (first.2.after first.1 store)

namespace TableStore

open StoreOperation Tables

variable {σ : Type} [Store σ] [TableStore σ] {table : Table} {uri : String}
  {requests earlier later : List (Timestamp × StoreOperation)} {row : (schema σ).Row} {store : σ}

theorem row_after (now : Timestamp) (request : StoreOperation) (store : σ) (table : Table) (uri : String) :
    (tables (request.after now store)).records table uri =
      touch now request table uri ((tables store).records table uri) := by
  rw [tables_after, row_apply]

/-- A row that is there stays, marked by the first deletion. -/
theorem row_runAll_of_stored (stored : (tables store).records table uri = some row) :
    (tables (runAll requests store).2).records table uri = some (row.settle (deletion? table uri requests)) := by
  induction requests generalizing store row with
  | nil => exact stored
  | cons first rest ih =>
    obtain ⟨now, request⟩ := first
    show (tables (runAll rest (request.after now store)).2).records table uri = _
    have next := row_after now request store table uri
    rw [stored, touch] at next
    by_cases deletes : Ledger.deleted? request = some (table, uri)
    · rw [if_pos deletes] at next
      have first : deletion? table uri ((now, request) :: rest) = some now := by
        rw [deletion?, List.find?_cons_of_pos (by simpa using deletes), Option.map_some]
      rw [ih next, first]
      -- later deletions find the mark
      refine congrArg some ?_
      rcases deletion? table uri rest with _ | time
      · rfl
      · exact Tables.delete_delete now time row
    · rw [if_neg deletes, Option.some_or] at next
      have none_first : deletion? table uri ((now, request) :: rest) = deletion? table uri rest := by
        rw [deletion?, List.find?_cons_of_neg (by simpa using deletes)]
        rfl
      rw [ih next, none_first]

/-- Without a creation there is no row, whatever is deleted. -/
theorem row_runAll_of_absent (absent : (tables store).records table uri = none)
    (adds : ∀ request ∈ requests, rowAt? (L := schema σ) request.2 table uri = none) :
    (tables (runAll requests store).2).records table uri = none := by
  induction requests generalizing store with
  | nil => exact absent
  | cons first rest ih =>
    obtain ⟨now, request⟩ := first
    show (tables (runAll rest (request.after now store)).2).records table uri = none
    refine ih ?_ fun other listed => adds other (List.mem_cons_of_mem _ listed)
    rw [row_after, absent, touch, adds (now, request) List.mem_cons_self]
    split <;> rfl

/-- The first creation at an empty address adds the row that stays. -/
theorem row_runAll_of_created {now : Timestamp} {request : StoreOperation}
    (absent : (tables store).records table uri = none)
    (first : ∀ request ∈ earlier, rowAt? (L := schema σ) request.2 table uri = none)
    (adds : rowAt? request table uri = some row) :
    (tables (runAll (earlier ++ (now, request) :: later) store).2).records table uri =
      some (row.settle (deletion? table uri later)) := by
  rw [runAll_append]
  show (tables (runAll later (request.after now (runAll earlier store).2)).2).records table uri = _
  refine row_runAll_of_stored ?_
  rw [row_after, row_runAll_of_absent absent first, touch, deleted?_of_rowAt? adds, if_neg nofun, adds, Option.none_or]

end TableStore

/-! ## Both stores -/

/-- The row with a time of deletion, where all else is as it was. -/
def Memory.mark (deletedAt : Option Timestamp) : Schema.Row Memory.schema → Schema.Row Memory.schema
  | .post row => .post { row with deletedAt }
  | .link row => .link { row with deletedAt }

/-- The row with a time of deletion, where all other columns are as they were. -/
def Relational.mark (deletedAt : Option Timestamp) : Schema.Row Relational.schema → Schema.Row Relational.schema
  | .post row => .post { row with deletedAt }
  | .link row => .link { row with deletedAt }

theorem Memory.settle_eq_mark (row : Schema.Row Memory.schema) (time : Option Timestamp) :
    row.settle time = mark (row.deletedAt.or time) row := by
  rcases time with _ | time
  · rw [Option.or_none]
    cases row <;> rfl
  · cases row <;> rfl

theorem Relational.settle_eq_mark (row : Schema.Row Relational.schema) (time : Option Timestamp) :
    row.settle time = mark (row.deletedAt.or time) row := by
  rcases time with _ | time
  · rw [Option.or_none]
    cases row <;> rfl
  · cases row <;> rfl

/-- **Permanent** — what becomes of the row at an address when requests are made: it was `before` and is `after`.
`mark` gives a row a time of deletion. -/
structure Permanent (mark : Option Timestamp → L.Row → L.Row) (table : Table) (uri : String)
    (requests : List (Timestamp × StoreOperation)) (before after : Option L.Row) : Prop where
  /-- A row stays but for its mark. The first deletion marks it, unless it is marked already. -/
  kept (row : L.Row) : before = some row →
    after = some (mark (row.deletedAt.or (deletion? table uri requests)) row)
  /-- The first row that comes to an empty address stays as it came, but for its mark. -/
  created (earlier later : List (Timestamp × StoreOperation)) (now : Timestamp) (request : StoreOperation)
    (row : L.Row) : before = none → requests = earlier ++ (now, request) :: later →
    (∀ other ∈ earlier, Tables.rowAt? (L := L) other.2 table uri = none) →
    Tables.rowAt? request table uri = some row →
      after = some (mark (row.deletedAt.or (deletion? table uri later)) row)
  /-- No other request fills an empty address. -/
  empty : before = none → (∀ request ∈ requests, Tables.rowAt? (L := L) request.2 table uri = none) → after = none

theorem Permanent.of_tables {σ : Type} [Store σ] [TableStore σ]
    {mark : Option Timestamp → (TableStore.schema σ).Row → (TableStore.schema σ).Row}
    (settled : ∀ (row : (TableStore.schema σ).Row) time, row.settle time = mark (row.deletedAt.or time) row)
    (requests : List (Timestamp × StoreOperation)) (table : Table) (uri : String) (store : σ) :
    Permanent mark table uri requests ((TableStore.tables store).records table uri)
      ((TableStore.tables (StoreOperation.runAll requests store).2).records table uri) where
  kept row stored := by rw [TableStore.row_runAll_of_stored stored, settled]
  created earlier later now request row absent split first adds := by
    rw [split, TableStore.row_runAll_of_created absent first adds, settled]
  empty absent adds := TableStore.row_runAll_of_absent absent adds

/-! ### Deletions of what is not there -/

theorem Memory.after_deletion_of_absent (now : Timestamp) {table : Table} {uri : String} {m : Memory}
    (absent : (tables m).records table uri = none) : (table.deletion uri).after now m = m := by
  cases table with
  | posts =>
    have unchanged := Keyed.modify_of_get?_eq_none (t := m.posts) (Option.map_eq_none_iff.mp absent) (·.delete now)
    exact congrArg (fun posts => { m with posts }) unchanged
  | likes =>
    have unchanged := Keyed.modify_of_get?_eq_none (t := m.likes) (Option.map_eq_none_iff.mp absent) (·.delete now)
    exact congrArg (fun likes => { m with likes }) unchanged
  | follows =>
    have unchanged := Keyed.modify_of_get?_eq_none (t := m.follows) (Option.map_eq_none_iff.mp absent) (·.delete now)
    exact congrArg (fun follows => { m with follows }) unchanged

theorem Relational.after_deletion_of_absent (now : Timestamp) {table : Table} {uri : String} {db : Relational}
    (absent : (tables db).records table uri = none) : (table.deletion uri).after now db = db := by
  cases table with
  | posts =>
    have unchanged := Keyed.modify_of_get?_eq_none (t := db.posts) (Option.map_eq_none_iff.mp absent) (·.delete now)
    exact congrArg (fun posts => { db with posts }) unchanged
  | likes =>
    have unchanged := Keyed.modify_of_get?_eq_none (t := db.likes) (Option.map_eq_none_iff.mp absent) (·.delete now)
    exact congrArg (fun likes => { db with likes }) unchanged
  | follows =>
    have unchanged := Keyed.modify_of_get?_eq_none (t := db.follows) (Option.map_eq_none_iff.mp absent) (·.delete now)
    exact congrArg (fun follows => { db with follows }) unchanged

/-- **Rows are for good.** Whatever is asked of a store, and whatever the store holds when the requests begin, every
row of every table stays with all its fields but the time of its deletion; that is set once, by the first deletion, or
not at all if the row has one. A deletion at an empty address leaves the whole store as it is. -/
theorem rows_permanent (requests : List (Timestamp × StoreOperation)) (table : Table) (uri : String) :
    (∀ m : Memory,
      Permanent Memory.mark table uri requests ((Memory.tables m).records table uri)
          ((Memory.tables (StoreOperation.runAll requests m).2).records table uri) ∧
        ∀ now, (Memory.tables m).records table uri = none → (table.deletion uri).after now m = m) ∧
    (∀ db : Relational,
      Permanent Relational.mark table uri requests ((Relational.tables db).records table uri)
          ((Relational.tables (StoreOperation.runAll requests db).2).records table uri) ∧
        ∀ now, (Relational.tables db).records table uri = none → (table.deletion uri).after now db = db) :=
  ⟨fun m => ⟨.of_tables Memory.settle_eq_mark requests table uri m, fun now => Memory.after_deletion_of_absent now⟩,
    fun db => ⟨.of_tables Relational.settle_eq_mark requests table uri db,
      fun now => Relational.after_deletion_of_absent now⟩⟩

/-! ### A like that is created twice -/

namespace LikedTwice

/-- The address of the like. -/
def uri : String := "at://did:plc:liker/app.bsky.feed.like/l1"

/-- The like as it is created, for a subject. -/
def like (subject : String) (deletedAt : Option Timestamp) : LinkRow :=
  ⟨uri, "did:plc:liker", subject, ⟨0, 0⟩, ⟨1, 0⟩, deletedAt⟩

/-- It is deleted, created again for another subject and with a time of deletion of its own, and deleted again. -/
def later : List (Timestamp × StoreOperation) :=
  [(⟨3, 0⟩, .deleteLike uri), (⟨4, 0⟩, .createLike (like "b" (some ⟨9, 0⟩))), (⟨5, 0⟩, .deleteLike uri)]

/-- Before it is created at all, it is deleted in vain. -/
def requests : List (Timestamp × StoreOperation) :=
  [(⟨1, 0⟩, .deleteLike uri)] ++ (⟨2, 0⟩, .createLike (like "a" none)) :: later

/-- Both stores keep the first like, as it was deleted first. -/
theorem first_like_kept :
    ((Memory.tables (StoreOperation.runAll requests {}).2).records .likes uri =
        some (.link (like "a" (some ⟨3, 0⟩))) ∧
      (Relational.tables (StoreOperation.runAll requests {}).2).records .likes uri =
        some (.link (like "a" (some ⟨3, 0⟩)))) ∧
      (StoreOperation.deleteLike uri).after ⟨1, 0⟩ ({} : Memory) = {} ∧
      (StoreOperation.deleteLike uri).after ⟨1, 0⟩ ({} : Relational) = {} := by
  have memory := (rows_permanent requests .likes uri).1 {}
  have relational := (rows_permanent requests .likes uri).2 {}
  refine ⟨⟨?_, ?_⟩, memory.2 ⟨1, 0⟩ rfl, relational.2 ⟨1, 0⟩ rfl⟩
  · exact memory.1.created _ later ⟨2, 0⟩ (.createLike (like "a" none)) (.link (like "a" none)) rfl rfl
      (List.forall_mem_singleton.mpr rfl) rfl
  · exact relational.1.created _ later ⟨2, 0⟩ (.createLike (like "a" none)) (.link (like "a" none)) rfl rfl
      (List.forall_mem_singleton.mpr rfl) rfl

end LikedTwice

end FeedIndex
