import FeedIndex.Proofs.Naming

/-!
# The grammar of addresses

Which texts are read as an address, and as which one: `Spells` says it part by part and without the reader. The reader
takes exactly those texts, the parts of a text are unique, and what is read is the text without its query or fragment,
which is read as the same address. An address whose parts are fine is read from its own text unless that is too long:
account and key have limits of their own, but a collection has none.
-/

namespace FeedIndex

/-! ## Pieces of a text -/

namespace Text

variable {sep : Char} {head cs before after rest : List Char}

theorem cut_eq_some_iff : cut sep cs = some (before, after) ↔ cs = before ++ sep :: after ∧ sep ∉ before := by
  refine ⟨cut_eq_some, ?_⟩
  rintro ⟨rfl, plain⟩
  exact cut_append plain after

theorem dropHead_eq_some_iff : dropHead head cs = some rest ↔ cs = head ++ rest := by
  refine ⟨dropHead_eq_some, ?_⟩
  rintro rfl
  exact dropHead_append head rest

theorem split_eq_splitOn (sep : Char) (cs : List Char) : split sep cs = cs.splitOn sep := by
  induction cs with
  | nil => rfl
  | cons c cs ih =>
    rw [List.splitOn, List.splitOnP_cons_eq_if_modifyHead, ← List.splitOn, split, ih]
    obtain ⟨piece, pieces, found⟩ := List.exists_cons_of_ne_nil (List.splitOnP_ne_nil (· == sep) cs)
    rw [← List.splitOn] at found
    by_cases same : c = sep
    · simp [found, same]
    · simp [found, same]

theorem mem_intercalate {c : Char} {pieces : List (List Char)} (among : c ∈ [sep].intercalate pieces) :
    c = sep ∨ ∃ piece ∈ pieces, c ∈ piece := by
  induction pieces with
  | nil => exact absurd among List.not_mem_nil
  | cons piece pieces ih =>
    cases pieces with
    | nil => exact .inr ⟨piece, List.mem_cons_self, by simpa using among⟩
    | cons next pieces =>
      rw [List.intercalate_cons_cons, List.append_assoc, List.mem_append, List.mem_append, List.mem_singleton] at among
      rcases among with first | separator | later
      · exact .inr ⟨piece, List.mem_cons_self, first⟩
      · exact .inl separator
      · exact (ih later).imp_right fun ⟨found, mem, within⟩ => ⟨found, List.mem_cons_of_mem _ mem, within⟩

end Text

/-! ## Accounts -/

namespace Did

/-- **Spelled** — the text of a DID: `did:`, a method of lower-case letters, a colon, and an identifier that does not
end with a colon. -/
structure Spelled (did : String) (method identifier : List Char) : Prop where
  short : did.utf8ByteSize ≤ 2048
  text : did.toList = "did:".toList ++ (method ++ ':' :: identifier)
  method_ne_nil : method ≠ []
  lower : ∀ c ∈ method, c.isLower = true
  identifier_ne_nil : identifier ≠ []
  allowed : ∀ c ∈ identifier, c.isAlphanum = true ∨ c ∈ "._:%-".toList
  ends : ¬ [':'] <:+ identifier

theorem isAllowed_iff {c : Char} : isAllowed c = true ↔ c.isAlphanum = true ∨ c ∈ "._:%-".toList := by
  have signs : "._:%-".toList = ['.', '_', ':', '%', '-'] := by decide
  simp only [isAllowed, signs, List.mem_cons, List.not_mem_nil, or_false, Bool.or_eq_true, beq_iff_eq, or_assoc]

theorem isAllowed_of_isLower {c : Char} (lower : c.isLower = true) : isAllowed c = true :=
  isAllowed_iff.mpr (.inl (show (c.isUpper || c.isLower || c.isDigit) = true from by simp [lower]))

theorem isMethod_iff {cs : List Char} : isMethod cs = true ↔ cs ≠ [] ∧ ∀ c ∈ cs, c.isLower = true := by
  simp [isMethod]

theorem isIdentifier_iff {cs : List Char} : isIdentifier cs = true ↔ cs ≠ [] ∧ ¬ [':'] <:+ cs := by
  have ends : [':'] <:+ cs ↔ cs.getLast? = some ':' := by
    rw [List.getLast?_eq_some_iff]
    exact ⟨fun ⟨front, h⟩ => ⟨front, h.symm⟩, fun ⟨front, h⟩ => ⟨front, h.symm⟩⟩
  rw [ends]
  simp [isIdentifier]

theorem isValid_iff {did : String} : isValid did = true ↔ ∃ method identifier, Spelled did method identifier := by
  have scheme : "did:".toList = ['d', 'i', 'd', ':'] := by decide
  unfold isValid wellFormed
  simp only [Bool.and_eq_true, decide_eq_true_eq, List.all_eq_true]
  constructor
  · rintro ⟨short, allowed, sections_⟩
    split at sections_
    · next method identifier found =>
      obtain ⟨rest, begins, colon⟩ := Option.bind_eq_some_iff.mp found
      obtain ⟨rfl, -⟩ := Text.cut_eq_some_iff.mp colon
      have text := Text.dropHead_eq_some_iff.mp begins
      obtain ⟨isMethod, isIdentifier⟩ := Bool.and_eq_true_iff.mp sections_
      obtain ⟨method_ne_nil, lower⟩ := isMethod_iff.mp isMethod
      obtain ⟨identifier_ne_nil, ends⟩ := isIdentifier_iff.mp isIdentifier
      refine ⟨method, identifier, short, scheme ▸ text, method_ne_nil, lower, identifier_ne_nil, fun c among => ?_, ends⟩
      exact isAllowed_iff.mp (allowed c (by rw [text]; simp [among]))
    · cases sections_
  · rintro ⟨method, identifier, spelled⟩
    have text := spelled.text
    rw [scheme] at text
    have plain : ':' ∉ method := fun among => absurd (spelled.lower _ among) (by decide)
    have found : (Text.dropHead ['d', 'i', 'd', ':'] did.toList).bind (Text.cut ':') = some (method, identifier) :=
      Option.bind_eq_some_iff.mpr
        ⟨_, Text.dropHead_eq_some_iff.mpr text, Text.cut_eq_some_iff.mpr ⟨rfl, plain⟩⟩
    rw [found]
    refine ⟨spelled.short, ?_, Bool.and_eq_true_iff.mpr ⟨isMethod_iff.mpr ⟨spelled.method_ne_nil, spelled.lower⟩,
      isIdentifier_iff.mpr ⟨spelled.identifier_ne_nil, spelled.ends⟩⟩⟩
    rw [text]
    exact List.forall_mem_append.mpr ⟨List.all_eq_true.mp (by decide), List.forall_mem_append.mpr
      ⟨fun c among => isAllowed_of_isLower (spelled.lower c among), List.forall_mem_cons.mpr
        ⟨by decide, fun c among => isAllowed_iff.mpr (spelled.allowed c among)⟩⟩⟩

end Did

namespace RecordUri

/-! ## Collections and keys -/

/-- **IsName** — the name of a collection: at least three labels, between dots, of letters, digits and hyphens. -/
def IsName (collection : String) : Prop :=
  ∃ labels : List (List Char), collection.toList = ['.'].intercalate labels ∧ 3 ≤ labels.length ∧
    ∀ label ∈ labels, label ≠ [] ∧ ∀ c ∈ label, c.isAlphanum = true ∨ c = '-'

/-- **IsRecordKey** — 1 to 512 letters, digits and signs, but neither one dot nor two. -/
structure IsRecordKey (key : String) : Prop where
  nonempty : 1 ≤ key.toList.length
  short : key.toList.length ≤ 512
  not_dot : key ≠ "."
  not_dots : key ≠ ".."
  allowed : ∀ c ∈ key.toList, c.isAlphanum = true ∨ c ∈ ".-_:~".toList

theorem isLabel_iff {cs : List Char} :
    isLabel cs = true ↔ cs ≠ [] ∧ ∀ c ∈ cs, c.isAlphanum = true ∨ c = '-' := by
  simp [isLabel]

theorem isCollection_iff {collection : String} : isCollection collection.toList = true ↔ IsName collection := by
  unfold isCollection
  simp only [Bool.and_eq_true, decide_eq_true_eq, List.all_eq_true, isLabel_iff, Text.split_eq_splitOn]
  constructor
  · rintro ⟨three, valid⟩
    exact ⟨_, (List.intercalate_splitOn '.').symm, three, valid⟩
  · rintro ⟨labels, text, three, valid⟩
    have plain : ∀ label ∈ labels, '.' ∉ label := fun label among dot =>
      absurd ((valid label among).2 '.' dot) (by decide)
    rw [text, List.splitOn_intercalate '.' plain (List.ne_nil_of_length_pos (Nat.lt_of_lt_of_le (by decide) three))]
    exact ⟨three, valid⟩

theorem isKeyChar_iff {c : Char} : isKeyChar c = true ↔ c.isAlphanum = true ∨ c ∈ ".-_:~".toList := by
  have signs : ".-_:~".toList = ['.', '-', '_', ':', '~'] := by decide
  simp only [isKeyChar, signs, List.mem_cons, List.not_mem_nil, or_false, Bool.or_eq_true, beq_iff_eq, or_assoc]

theorem isKey_iff {key : String} : isKey key.toList = true ↔ IsRecordKey key := by
  have dot : key.toList = ['.'] ↔ key = "." := show key.toList = ".".toList ↔ _ from String.toList_inj
  have dots : key.toList = ['.', '.'] ↔ key = ".." :=
    show key.toList = "..".toList ↔ _ from String.toList_inj
  unfold isKey
  simp only [Bool.and_eq_true, decide_eq_true_eq, List.all_eq_true, isKeyChar_iff, bne_iff_ne, ne_eq, dot, dots,
    Bool.not_eq_true', List.isEmpty_eq_false_iff, ← List.length_pos_iff, and_assoc]
  exact ⟨fun ⟨nonempty, short, not_dot, not_dots, allowed⟩ => ⟨nonempty, short, not_dot, not_dots, allowed⟩,
    fun key => ⟨key.nonempty, key.short, key.not_dot, key.not_dots, key.allowed⟩⟩

/-- **WellFormed** — every part of an address keeps its rules. -/
structure WellFormed (uri : RecordUri) : Prop where
  did : ∃ method identifier, Did.Spelled uri.did method identifier
  collection : IsName uri.collection
  rkey : IsRecordKey uri.rkey

theorem IsName.isPlain {collection : String} (name : IsName collection) :
    ∀ c ∈ collection.toList, IsPlain c ∧ c ≠ '/' := by
  obtain ⟨labels, text, -, valid⟩ := name
  intro c among
  rw [text] at among
  rcases Text.mem_intercalate among with rfl | ⟨label, mem, within⟩
  · decide
  rcases (valid label mem).2 c within with alphanum | rfl
  · exact ⟨isPlain_of_isAlphanum alphanum, fun slash => absurd (slash ▸ alphanum) (by decide)⟩
  · decide

/-! ## The path of an address -/

/-- The text of the parts, behind the scheme. -/
def path (uri : RecordUri) : List Char := uri.did.toList ++ '/' :: (uri.collection.toList ++ '/' :: uri.rkey.toList)

theorem WellFormed.isPlain {uri : RecordUri} (wellFormed : uri.WellFormed) : ∀ c ∈ uri.path, IsPlain c := by
  have slash : IsPlain '/' := by decide
  exact List.forall_mem_append.mpr ⟨isPlain_did (Did.isValid_iff.mpr wellFormed.did), List.forall_mem_cons.mpr
    ⟨slash, List.forall_mem_append.mpr ⟨fun c among => (wellFormed.collection.isPlain c among).1,
      List.forall_mem_cons.mpr ⟨slash, isPlain_key (isKey_iff.mpr wellFormed.rkey)⟩⟩⟩⟩

/-- A path is read as the parts that spell it, if they keep the rules. -/
theorem ofPath?_eq_some_iff {cs : List Char} {uri : RecordUri} :
    ofPath? cs = some uri ↔ cs = uri.path ∧ uri.WellFormed := by
  unfold ofPath?
  constructor
  · intro read
    split at read
    · cases read
    next did rest first =>
    split at read
    · cases read
    next collection rkey second =>
    obtain ⟨valid, same⟩ := Option.ite_none_right_eq_some.mp read
    obtain rfl := Option.some.inj same
    simp only [Bool.and_eq_true] at valid
    obtain ⟨rfl, -⟩ := Text.cut_eq_some_iff.mp second
    obtain ⟨rfl, -⟩ := Text.cut_eq_some_iff.mp first
    refine ⟨by simp [path], Did.isValid_iff.mp valid.1.1, isCollection_iff.mp ?_, isKey_iff.mp ?_⟩
    · rw [String.toList_ofList]
      exact valid.1.2
    · rw [String.toList_ofList]
      exact valid.2
  · rintro ⟨rfl, wellFormed⟩
    have valid := Did.isValid_iff.mpr wellFormed.did
    have name := isCollection_iff.mpr wellFormed.collection
    have key := isKey_iff.mpr wellFormed.rkey
    have noSlash : '/' ∉ uri.collection.toList := fun among => (wellFormed.collection.isPlain '/' among).2 rfl
    rw [path, Text.cut_append (slash_not_mem_did valid)]
    dsimp only
    rw [Text.cut_append noSlash]
    simp only [String.ofList_toList, valid, name, key, Bool.and_self, if_true]

/-- **IsSuffix** — a query or a fragment, or nothing. -/
def IsSuffix (rest : String) : Prop := rest = "" ∨ "?".toList <+: rest.toList ∨ "#".toList <+: rest.toList

/-- A suffix starts where the plain text ends. -/
theorem withoutSuffix_append {front : List Char} {rest : String} (plain : ∀ c ∈ front, IsPlain c)
    (suffix : IsSuffix rest) : withoutSuffix (front ++ rest.toList) = front := by
  unfold withoutSuffix
  rw [List.takeWhile_append_of_pos fun c among => by simp [(plain c among).2.1, (plain c among).2.2]]
  have question : "?".toList = ['?'] := by decide
  have hash : "#".toList = ['#'] := by decide
  rcases suffix with rfl | ⟨more, marked⟩ | ⟨more, marked⟩
  · simp
  · simp [← marked, question]
  · simp [← marked, hash]

theorem exists_suffix (cs : List Char) : ∃ rest, cs = withoutSuffix cs ++ rest.toList ∧ IsSuffix rest := by
  refine ⟨String.ofList (cs.dropWhile fun c => c != '?' && c != '#'), ?_, ?_⟩
  · rw [String.toList_ofList]
    exact List.takeWhile_append_dropWhile.symm
  · have first := List.head?_dropWhile_not (fun c => c != '?' && c != '#') cs
    rcases found : cs.dropWhile fun c => c != '?' && c != '#' with _ | ⟨c, more⟩
    · exact .inl rfl
    · rw [found] at first
      simp only [List.head?_cons, Bool.and_eq_false_iff, bne_eq_false_iff_eq] at first
      rcases first with rfl | rfl
      · exact .inr (.inl ⟨more, String.toList_ofList.symm⟩)
      · exact .inr (.inr ⟨more, String.toList_ofList.symm⟩)

/-! ## Addresses -/

variable {s rest rest' : String} {uri uri' : RecordUri}

/-- **Spells** — a text spells an address: ASCII of at most 8192 bytes, the scheme, the three parts between slashes,
each by its rules, and a query or a fragment, or nothing. -/
structure Spells (s : String) (uri : RecordUri) (rest : String) : Prop where
  ascii : ∀ c ∈ s.toList, c.toNat < 128
  short : s.utf8ByteSize ≤ 8192
  text : s = "at://" ++ uri.did ++ "/" ++ uri.collection ++ "/" ++ uri.rkey ++ rest
  suffix : IsSuffix rest
  wellFormed : uri.WellFormed

theorem text_iff : s = "at://" ++ uri.did ++ "/" ++ uri.collection ++ "/" ++ uri.rkey ++ rest ↔
    s.toList = ['a', 't', ':', '/', '/'] ++ (uri.path ++ rest.toList) := by
  show s = uri.render ++ rest ↔ _
  rw [← String.toList_inj, String.toList_append, toList_render, List.append_assoc]
  rfl

theorem parse?_eq_some_iff : parse? s = some uri ↔ ∃ rest, Spells s uri rest := by
  unfold parse?
  simp only [Bool.and_eq_true, decide_eq_true_eq, List.all_eq_true, Option.ite_none_right_eq_some,
    Option.bind_eq_some_iff, Text.dropHead_eq_some_iff, ofPath?_eq_some_iff]
  constructor
  · rintro ⟨⟨short, ascii⟩, cs, text, same, wellFormed⟩
    obtain ⟨rest, whole, suffix⟩ := exists_suffix cs
    rw [whole, same] at text
    exact ⟨rest, ascii, short, text_iff.mpr text, suffix, wellFormed⟩
  · rintro ⟨rest, spells⟩
    exact ⟨⟨spells.short, spells.ascii⟩, _, text_iff.mp spells.text,
      withoutSuffix_append spells.wellFormed.isPlain spells.suffix, spells.wellFormed⟩

/-- A text spells one address at most, in one way. -/
theorem Spells.unique (spells : Spells s uri rest) (spells' : Spells s uri' rest') : uri' = uri ∧ rest' = rest := by
  have read := parse?_eq_some_iff.mpr ⟨rest, spells⟩
  rw [parse?_eq_some_iff.mpr ⟨rest', spells'⟩] at read
  obtain rfl := Option.some.inj read
  have texts := (text_iff.mp spells'.text).symm.trans (text_iff.mp spells.text)
  exact ⟨rfl, String.toList_inj.mp (List.append_cancel_left (List.append_cancel_left texts))⟩

/-- The text of an address spells it if its parts are fine and it is not too long. -/
theorem WellFormed.spells (wellFormed : uri.WellFormed) (short : uri.render.utf8ByteSize ≤ 8192) :
    Spells uri.render uri "" := by
  refine ⟨?_, short, (String.append_empty).symm, .inl rfl, wellFormed⟩
  rw [toList_render]
  exact List.forall_mem_append.mpr
    ⟨fun c among => (isPlain_of_all (by decide) c among).1, fun c among => (wellFormed.isPlain c among).1⟩

theorem Spells.render_append (spells : Spells s uri rest) : uri.render ++ rest = s := spells.text.symm

theorem Spells.render_short (spells : Spells s uri rest) : uri.render.utf8ByteSize ≤ 8192 := by
  have short := spells.short
  rw [← spells.render_append, String.utf8ByteSize_append] at short
  exact Nat.le_of_add_right_le short

/-- The text of what is read is read as the same address. -/
theorem Spells.parse?_render (spells : Spells s uri rest) : parse? uri.render = some uri :=
  parse?_eq_some_iff.mpr ⟨"", spells.wellFormed.spells spells.render_short⟩

/-- **Addresses are read by their grammar, and read canonically.** A text is read as an address exactly if it spells it;
it spells no other, and this one in one way. The text of what is read is the text up to its query or fragment, and is
read as the same address. An address is read from its own text exactly if its parts are fine and the text has at most
8192 bytes. -/
theorem parse?_grammar (s : String) (uri : RecordUri) :
    (parse? s = some uri ↔ ∃ rest, Spells s uri rest) ∧
      (∀ rest, Spells s uri rest →
        (∀ uri' rest', Spells s uri' rest' → uri' = uri ∧ rest' = rest) ∧ uri.render ++ rest = s ∧
          parse? uri.render = some uri) ∧
      (parse? uri.render = some uri ↔ uri.WellFormed ∧ uri.render.utf8ByteSize ≤ 8192) := by
  refine ⟨parse?_eq_some_iff, fun rest spells => ⟨fun uri' rest' spells' => spells.unique spells',
    spells.render_append, spells.parse?_render⟩, ?_, ?_⟩
  · intro read
    obtain ⟨rest, spells⟩ := parse?_eq_some_iff.mp read
    exact ⟨spells.wellFormed, spells.short⟩
  · rintro ⟨wellFormed, short⟩
    exact parse?_eq_some_iff.mpr ⟨"", wellFormed.spells short⟩

end RecordUri

/-! ## Subjects of likes -/

namespace Handler

variable {text subject : String}

/-- A like is taken for one of the record whose address its subject spells. -/
theorem likedUri_eq_ok_iff :
    likedUri text = .ok subject ↔ ∃ uri rest, RecordUri.Spells text uri rest ∧ uri.render = subject := by
  unfold likedUri
  constructor
  · intro liked
    split at liked
    · next uri read =>
      obtain ⟨rest, spells⟩ := RecordUri.parse?_eq_some_iff.mp read
      exact ⟨uri, rest, spells, Except.ok.inj liked⟩
    · cases liked
  · rintro ⟨uri, rest, spells, rfl⟩
    rw [RecordUri.parse?_eq_some_iff.mpr ⟨rest, spells⟩]

/-- **What a like names is canonical**: all texts that spell an address count for the same one. -/
theorem likedUri_canonical (liked : likedUri text = .ok subject) : likedUri subject = .ok subject := by
  obtain ⟨uri, rest, spells, rfl⟩ := likedUri_eq_ok_iff.mp liked
  unfold likedUri
  rw [spells.parse?_render]

end Handler

/-! ### Records under the key `self` -/

namespace SelfRecord

open RecordUri

theorem account : ∃ method identifier, Did.Spelled "did:plc:asdf" method identifier := Did.isValid_iff.mp (by decide)

theorem key : IsRecordKey "self" := isKey_iff.mp (by decide)

def profile : RecordUri := ⟨"did:plc:asdf", "app.bsky.actor.profile", "self"⟩

/-- A profile at a fragment is read as its address, which is the text without the fragment. -/
theorem profile_read :
    parse? "at://did:plc:asdf/app.bsky.actor.profile/self#frag" = some profile ∧
      profile.render ++ "#frag" = "at://did:plc:asdf/app.bsky.actor.profile/self#frag" ∧
      parse? profile.render = some profile := by
  have spells : Spells "at://did:plc:asdf/app.bsky.actor.profile/self#frag" profile "#frag" :=
    ⟨by simp, by decide, by decide, .inr (.inr ⟨"frag".toList, rfl⟩), account,
      isCollection_iff.mp (by decide), key⟩
  have grammar := parse?_grammar "at://did:plc:asdf/app.bsky.actor.profile/self#frag" profile
  exact ⟨grammar.1.mpr ⟨_, spells⟩, (grammar.2.1 _ spells).2⟩

/-- A record in a collection that has a label of so many letters. -/
def uri (letters : Nat) : RecordUri :=
  ⟨"did:plc:asdf", String.ofList (List.replicate letters 'a' ++ ".b.c".toList), "self"⟩

theorem wellFormed {letters : Nat} (some_letter : letters ≠ 0) : (uri letters).WellFormed := by
  refine ⟨account, ⟨[List.replicate letters 'a', ['b'], ['c']], ?_, Nat.le_refl 3, ?_⟩, key⟩
  · rw [uri, String.toList_ofList, List.intercalate_cons_cons, List.append_assoc]
    rfl
  · refine List.forall_mem_cons.mpr ⟨⟨by rwa [ne_eq, List.replicate_eq_nil_iff], fun c among => .inl ?_⟩,
      fun label mem => isLabel_iff.mp (List.all_eq_true.mp (by decide) label mem)⟩
    rw [List.eq_of_mem_replicate among]
    decide

theorem length_render (letters : Nat) : (uri letters).render.toList.length = letters + 27 := by
  rw [toList_render, uri]
  simp only [String.toList_ofList, List.length_append, List.length_cons, List.length_replicate]
  show 5 + (12 + (letters + 4 + (4 + 1) + 1)) = _
  omega

/-- **An address with a long collection is not read from its own text**, though all its parts are fine. -/
theorem long_name_not_read : (uri 9000).WellFormed ∧ parse? (uri 9000).render = none := by
  refine ⟨wellFormed (by decide), Option.eq_none_iff_forall_ne_some.mpr fun found read => ?_⟩
  obtain ⟨rest, spells⟩ := parse?_eq_some_iff.mp read
  have short := spells.short
  rw [Text.utf8ByteSize_of_ascii spells.ascii, length_render] at short
  exact absurd short (by decide)

end SelfRecord

end FeedIndex
