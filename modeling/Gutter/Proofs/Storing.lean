import Gutter.Proofs.Document
import Gutter.Proofs.Text.Utf8

/-! Documents in files: what is written under a path is read under it again, and a text that is
saved and opened has a newline for each of its line ends. -/

namespace Gutter

theorem Text.mem_joinWith {mark c : Char} (hc : c ≠ mark) {pieces : List (List Char)} :
    c ∈ joinWith mark pieces ↔ ∃ piece ∈ pieces, c ∈ piece := by
  induction pieces with
  | nil => simp [joinWith]
  | cons piece pieces ih =>
    cases pieces with
    | nil => simp [joinWith]
    | cons next pieces => simp [joinWith, hc, ih]

namespace Path

/-- What the text of a path writes: two slashes in front at most, and parts that count. -/
structure IsNormal (path : Path) : Prop where
  slashes : path.slashes ≤ 2
  parts : ∀ part ∈ path.parts, isPart part = true ∧ '/' ∉ part

theorem isNormal_ofText (text : List Char) : (ofText text).IsNormal where
  slashes := by
    unfold ofText
    dsimp only
    split <;> decide
  parts := fun part hm => by
    obtain ⟨hm, hpart⟩ := List.mem_filter.mp hm
    exact ⟨hpart, Text.not_mem_of_mem_splitOn hm⟩

theorem ofText_slashes {rest : List Char} {slashes : Nat} (hle : slashes ≤ 2)
    (hrest : rest.head? ≠ some '/') :
    (ofText (List.replicate slashes '/' ++ rest)).slashes = slashes := by
  have hstart (c : Char) (more : List Char) (h : rest = c :: more) : c ≠ '/' :=
    fun hc => hrest (by rw [h, hc, List.head?_cons])
  match slashes, rest with
  | 0, [] => rfl
  | 1, [] => rfl
  | 2, [] => rfl
  | 0, c :: more => simp [ofText, hstart c more rfl]
  | 1, c :: more => simp [ofText, hstart c more rfl]
  | 2, c :: more => simp [ofText, hstart c more rfl]

theorem ofText_parts (rest : List Char) (slashes : Nat) :
    (ofText (List.replicate slashes '/' ++ rest)).parts =
      (Text.splitOn '/' rest).filter isPart := by
  induction slashes with
  | zero => rfl
  | succ slashes ih =>
    rw [← ih]
    rfl

/-- The normal form of a path is the text of that path. -/
theorem ofText_text {path : Path} (h : path.IsNormal) : ofText path.text = path := by
  obtain ⟨slashes, parts⟩ := path
  unfold text
  split
  next hnone =>
    obtain ⟨rfl, rfl⟩ : slashes = 0 ∧ parts = [] := by simpa using hnone
    rfl
  · have hjoined : (Text.joinWith '/' parts).head? ≠ some '/' := by
      cases parts with
      | nil => exact nofun
      | cons part parts =>
        obtain ⟨hpart, hslash⟩ := h.parts part List.mem_cons_self
        cases part with
        | nil => cases hpart
        | cons c part =>
          have hc : c ≠ '/' := fun hc => hslash (hc ▸ List.mem_cons_self)
          cases parts <;> simpa [Text.joinWith] using hc
    have hparts : (Text.splitOn '/' (Text.joinWith '/' parts)).filter isPart = parts := by
      by_cases hnil : parts = []
      · rw [hnil]
        rfl
      · rw [Text.splitOn_joinWith hnil fun part hm => (h.parts part hm).2,
          List.filter_eq_self.mpr fun part hm => (h.parts part hm).1]
    have hslashes := ofText_slashes h.slashes hjoined
    rw [← ofText_parts _ slashes] at hparts
    exact (Path.mk.injEq _ _ _ _).mpr ⟨hslashes, hparts⟩

theorem normal_normal (path : String) : normal (normal path) = normal path := by
  unfold normal
  rw [String.toList_ofList, ofText_text (isNormal_ofText _)]

end Path

namespace Files

/-- Places that share a file have the same node. So it is in a tree without shared files, and
nothing that is written to a tree makes places share one. -/
structure Consistent (files : Files) : Prop where
  sharers : ∀ place, ∀ other ∈ files.sharers place, files.node? other = files.node? place

variable {files after : Files} {place other : List (List Char)} {node : Node}

theorem mem_sharers (files : Files) (place : List (List Char)) : place ∈ files.sharers place := by
  unfold sharers
  split
  next share hshare =>
    obtain ⟨before, behind, heq, -⟩ := List.lookup_eq_some_iff.mp hshare
    refine List.mem_map.mpr ⟨(place, share), List.mem_filter.mpr ⟨?_, by simp⟩, rfl⟩
    rw [heq]
    exact List.mem_append_right before List.mem_cons_self
  · exact List.mem_singleton_self place

theorem consistent_of_unshared (h : files.shares = []) : files.Consistent where
  sharers := fun place other hm => by
    rw [sharers, h] at hm
    rw [List.mem_singleton.mp hm]

theorem lookup_map_same {α : Type} (places : List (List (List Char))) (new : α)
    (place : List (List Char)) :
    (places.map fun place => (place, new)).lookup place =
      if place ∈ places then some new else none := by
  induction places with
  | nil => rfl
  | cons first places ih =>
    rw [List.map_cons, List.lookup_cons, ih]
    by_cases h : place = first
    · simp [h]
    · simp [h, beq_false_of_ne h]

theorem lookup_filter_others {α : Type} {places : List (List (List Char))}
    (items : List (List (List Char) × α)) (hplace : place ∉ places) :
    (items.filter fun item => !places.contains item.1).lookup place = items.lookup place := by
  induction items with
  | nil => rfl
  | cons item items ih =>
    rw [List.filter_cons, List.lookup_cons]
    split
    · rw [List.lookup_cons, ih]
    next hout =>
      have hne : place ≠ item.1 := fun heq => hout (by simpa [← heq] using hplace)
      rw [ih, beq_false_of_ne hne]

theorem lookup_replaceAt {α : Type} (places : List (List (List Char))) (new : α)
    (items : List (List (List Char) × α)) (place : List (List Char)) :
    (replaceAt places new items).lookup place =
      if place ∈ places then some new else items.lookup place := by
  rw [replaceAt, List.lookup_append, lookup_map_same]
  split
  · rfl
  next hplace => rw [Option.none_or, lookup_filter_others items hplace]

theorem node?_set (files : Files) (node : Node) (hother : other ≠ []) :
    (files.set place node).node? other =
      if other ∈ files.sharers place then some node else files.node? other := by
  have hempty : other.isEmpty = false := by simpa using hother
  rw [node?, node?, hempty]
  exact lookup_replaceAt _ node files.nodes other

/-- There is nothing, or a file that can be written. -/
def IsPlain : Option Node → Prop
  | none => True
  | some (.file ..) => True
  | _ => False

/-- The trees differ in files at most: where one has another node, it is a file in the place of a
file or of nothing. -/
structure Overwrites (files after : Files) : Prop where
  place : after.place = files.place
  node? : ∀ place, after.node? place = files.node? place ∨
    IsPlain (files.node? place) ∧
      ∃ bytes executable, after.node? place = some (.file bytes executable)

theorem Overwrites.directory (h : Overwrites files after)
    (hdirectory : files.node? place = some .directory) : after.node? place = some .directory := by
  obtain hsame | ⟨hplain, -⟩ := h.node? place
  · exact hsame.trans hdirectory
  · rw [hdirectory] at hplain
    exact hplain.elim

theorem Overwrites.link (h : Overwrites files after) {target : List Char}
    (hlink : files.node? place = some (.link target)) :
    after.node? place = some (.link target) := by
  obtain hsame | ⟨hplain, -⟩ := h.node? place
  · exact hsame.trans hlink
  · rw [hlink] at hplain
    exact hplain.elim

/-- The same arrival in another tree. -/
def Arrival.inTree (files : Files) : Arrival → Arrival
  | .place place _ => .place place (files.node? place)
  | .link place target rest => .link place target rest

/-- A part of a path that names something in a directory. -/
structure IsName (part : List Char) : Prop where
  stays : part ≠ ['.']
  rises : part ≠ ['.', '.']
  size : ¬partLimit < byteSize part

/-- How a walk arrives at a place or at a link: every part leads on from a directory. -/
inductive Arrives (files : Files) (follow : Bool) :
    List (List Char) → List (List Char) → Arrival → Prop
  | here (place : List (List Char)) :
    Arrives files follow place [] (.place place (files.node? place))
  | stay {place rest : List (List Char)} {arrival : Arrival}
    (hdirectory : files.node? place = some .directory)
    (hrest : Arrives files follow place rest arrival) :
    Arrives files follow place (['.'] :: rest) arrival
  | rise {place rest : List (List Char)} {arrival : Arrival}
    (hdirectory : files.node? place = some .directory)
    (hrest : Arrives files follow place.dropLast rest arrival) :
    Arrives files follow place (['.', '.'] :: rest) arrival
  | nowhere {place : List (List Char)} {part : List Char}
    (hdirectory : files.node? place = some .directory) (hname : IsName part)
    (hnone : files.node? (place ++ [part]) = none) :
    Arrives files follow place [part] (.place (place ++ [part]) none)
  | atLink {place : List (List Char)} {part target : List Char}
    (hdirectory : files.node? place = some .directory) (hname : IsName part)
    (hlink : files.node? (place ++ [part]) = some (.link target)) (hstops : follow = false) :
    Arrives files follow place [part] (.place (place ++ [part]) (some (.link target)))
  | along {place rest : List (List Char)} {part target : List Char}
    (hdirectory : files.node? place = some .directory) (hname : IsName part)
    (hlink : files.node? (place ++ [part]) = some (.link target))
    (hgoes : rest = [] → follow = true) :
    Arrives files follow place (part :: rest) (.link place target rest)
  | enter {place rest : List (List Char)} {part : List Char} {node : Node} {arrival : Arrival}
    (hdirectory : files.node? place = some .directory) (hname : IsName part)
    (hnode : files.node? (place ++ [part]) = some node) (hother : ∀ target, node ≠ .link target)
    (hrest : Arrives files follow (place ++ [part]) rest arrival) :
    Arrives files follow place (part :: rest) arrival

section Walks

variable {follow : Bool} {parts : List (List Char)} {arrival : Arrival} {links : Nat}
  {path : String}

theorem arrives_of_walkToLink (h : files.walkToLink follow place parts = .ok arrival) :
    Arrives files follow place parts arrival := by
  induction parts generalizing place with
  | nil =>
    cases h
    exact .here place
  | cons part rest ih =>
    unfold walkToLink at h
    split at h
    · cases h
    next hdirectory =>
    have hdirectory : files.node? place = some .directory := by simpa using hdirectory
    split at h
    next hstays =>
      subst hstays
      exact .stay hdirectory (ih h)
    next hstays =>
    split at h
    next hrises =>
      subst hrises
      exact .rise hdirectory (ih h)
    next hrises =>
    split at h
    · cases h
    next hsize =>
    have hname : IsName part := ⟨hstays, hrises, hsize⟩
    split at h
    next hnone =>
      split at h
      next hlast =>
        obtain rfl := List.isEmpty_iff.mp hlast
        cases h
        exact .nowhere hdirectory hname hnone
      · cases h
    next target hlink =>
      split at h
      next hends =>
        obtain ⟨rfl, rfl⟩ : rest = [] ∧ follow = false := by simpa using hends
        cases h
        exact .atLink hdirectory hname hlink rfl
      next hgoes =>
        cases h
        exact .along hdirectory hname hlink (by simpa using hgoes)
    next node hother hnode =>
      exact .enter hdirectory hname hnode (fun target heq => hother target heq) (ih h)

theorem walkToLink_of_arrives (h : Arrives files follow place parts arrival) :
    files.walkToLink follow place parts = .ok arrival := by
  induction h with
  | here => rfl
  | stay hdirectory _ ih => simp [walkToLink, hdirectory, ih]
  | rise hdirectory _ ih => simp [walkToLink, hdirectory, ih]
  | nowhere hdirectory hname hnone =>
    simp [walkToLink, hdirectory, hname.stays, hname.rises, hname.size, hnone]
  | atLink hdirectory hname hlink hstops =>
    simp [walkToLink, hdirectory, hname.stays, hname.rises, hname.size, hlink, hstops]
  | along hdirectory hname hlink hgoes =>
    simpa [walkToLink, hdirectory, hname.stays, hname.rises, hname.size, hlink] using hgoes
  | enter hdirectory hname hnode hother _ ih =>
    simp [walkToLink, hdirectory, hname.stays, hname.rises, hname.size, hnode, ih]

/-- A walk leads to the same place, whatever was written to files. -/
theorem Arrives.overwritten (h : Arrives files follow place parts arrival)
    (hafter : Overwrites files after) :
    Arrives after follow place parts (arrival.inTree after) := by
  induction h with
  | here place => exact .here place
  | stay hdirectory _ ih => exact .stay (hafter.directory hdirectory) ih
  | rise hdirectory _ ih => exact .rise (hafter.directory hdirectory) ih
  | @nowhere place part hdirectory hname hnone =>
    have hdirectory := hafter.directory hdirectory
    -- Where the walk led nowhere there may be a file now, and the walk goes on into it.
    obtain hsame | ⟨-, bytes, executable, hfile⟩ := hafter.node? (place ++ [part])
    · rw [Arrival.inTree, hsame, hnone]
      exact .nowhere hdirectory hname (hsame.trans hnone)
    · exact .enter hdirectory hname hfile (fun _ h => by cases h) (.here _)
  | atLink hdirectory hname hlink hstops =>
    have hlink := hafter.link hlink
    rw [Arrival.inTree, hlink]
    exact .atLink (hafter.directory hdirectory) hname hlink hstops
  | along hdirectory hname hlink hgoes =>
    exact .along (hafter.directory hdirectory) hname (hafter.link hlink) hgoes
  | @enter place rest part node arrival hdirectory hname hnode hother _ ih =>
    have hdirectory := hafter.directory hdirectory
    obtain hsame | ⟨-, bytes, executable, hfile⟩ := hafter.node? (place ++ [part])
    · exact .enter hdirectory hname (hsame.trans hnode) hother ih
    · exact .enter hdirectory hname hfile (fun _ h => by cases h) ih

theorem walkToLink_overwritten (h : Overwrites files after)
    (hwalk : files.walkToLink follow place parts = .ok arrival) :
    after.walkToLink follow place parts = .ok (arrival.inTree after) :=
  walkToLink_of_arrives ((arrives_of_walkToLink hwalk).overwritten h)

theorem walk_overwritten (h : Overwrites files after) {node : Option Node}
    (hwalk : files.walk follow links place parts = .ok (other, node)) :
    after.walk follow links place parts = .ok (other, after.node? other) := by
  induction links generalizing place parts with
  | zero => cases hwalk
  | succ links ih =>
    unfold walk at hwalk ⊢
    split at hwalk
    · cases hwalk
    next hto =>
      cases hwalk
      rw [walkToLink_overwritten h hto]
      rfl
    next hto =>
      rw [walkToLink_overwritten h hto]
      exact ih hwalk

theorem locate_overwritten (h : Overwrites files after) {node : Option Node}
    (hlocate : files.locate path = .ok (place, node)) :
    after.locate path = .ok (place, after.node? place) := by
  unfold locate seek at hlocate ⊢
  dsimp only at hlocate ⊢
  split at hlocate
  · cases hlocate
  next hempty =>
  rw [if_neg hempty]
  split at hlocate
  · cases hlocate
  next hnull =>
  rw [if_neg hnull]
  split at hlocate
  · cases hlocate
  next hsize =>
  rw [if_neg hsize, h.place]
  exact walk_overwritten h hlocate

theorem node?_of_arrives (h : Arrives files follow place parts arrival) {node : Option Node}
    (harrival : arrival = .place other node) : node = files.node? other := by
  induction h with
  | here =>
    cases harrival
    rfl
  | stay _ _ ih => exact ih harrival
  | rise _ _ ih => exact ih harrival
  | nowhere _ _ hnone =>
    cases harrival
    exact hnone.symm
  | atLink _ _ hlink =>
    cases harrival
    exact hlink.symm
  | along => cases harrival
  | enter _ _ _ _ _ ih => exact ih harrival

theorem node?_of_walk {node : Option Node}
    (h : files.walk follow links place parts = .ok (other, node)) : node = files.node? other := by
  induction links generalizing place parts with
  | zero => cases h
  | succ links ih =>
    unfold walk at h
    split at h
    · cases h
    next hto =>
      cases h
      exact node?_of_arrives (arrives_of_walkToLink hto) rfl
    · exact ih h

/-- A walk tells what is at the place that it leads to. -/
theorem node?_of_locate {node : Option Node} (h : files.locate path = .ok (place, node)) :
    node = files.node? place := by
  unfold locate seek at h
  dsimp only at h
  split at h
  · cases h
  split at h
  · cases h
  split at h
  · cases h
  · exact node?_of_walk h

end Walks

/-! ### Writing -/

section Writing

variable {path : String} {bytes : List UInt8} {executable : Bool}

theorem ne_nil_of_isPlain (h : IsPlain (files.node? place)) : place ≠ [] := by
  rintro rfl
  exact h

theorem overwrites_set (hfiles : files.Consistent) (hplain : IsPlain (files.node? place))
    (bytes : List UInt8) (executable : Bool) :
    Overwrites files (files.set place (.file bytes executable)) where
  place := rfl
  node? := fun other => by
    by_cases hm : other ∈ files.sharers place
    · have hother : IsPlain (files.node? other) := by rwa [hfiles.sharers place other hm]
      refine .inr ⟨hother, bytes, executable, ?_⟩
      rw [node?_set files _ (ne_nil_of_isPlain hother), if_pos hm]
    · left
      by_cases hnil : other = []
      · rw [hnil]
        rfl
      · rw [node?_set files _ hnil, if_neg hm]

theorem read_set (hfiles : files.Consistent) {node : Option Node}
    (hlocate : files.locate path = .ok (place, node)) (hplain : IsPlain node) :
    (files.set place (.file bytes executable)).read path = .ok bytes := by
  obtain rfl := node?_of_locate hlocate
  have hthere := locate_overwritten (overwrites_set hfiles hplain bytes executable) hlocate
  rw [node?_set files _ (ne_nil_of_isPlain hplain), if_pos (files.mem_sharers place)] at hthere
  rw [read, find, hthere]
  rfl

/-- What is written under a path is read under it again, unless it is lost in a device. -/
theorem read_write (hfiles : files.Consistent) (hdevice : files.device? path = none)
    (h : files.write path bytes = .ok after) : after.read path = .ok bytes := by
  unfold write at h
  cases hlocate : files.locate path with
  | error fault =>
    rw [hlocate] at h
    cases h
  | ok found =>
    obtain ⟨place, node⟩ := found
    rw [hlocate] at h
    match node with
    | none =>
      cases h
      exact read_set hfiles hlocate trivial
    | some (.file old executable) =>
      cases h
      exact read_set hfiles hlocate trivial
    | some (.device device) =>
      rw [device?, find, hlocate] at hdevice
      cases hdevice
    | some .directory => cases h
    | some (.link _) => cases h
    | some (.tool _) => cases h
    | some .sealedFile => cases h

/-- A file can be written. -/
theorem exists_write (h : files.find path = .ok (.file bytes executable)) (new : List UInt8) :
    ∃ after, files.write path new = .ok after := by
  unfold find at h
  unfold write
  split at h
  · cases h
  · cases h
  next place node hlocate =>
    cases h
    rw [hlocate]
    exact ⟨_, rfl⟩

end Writing

end Files

namespace Document

open Text (splitOn joinWith)
open Text.Utf8 (decode encode)

variable {text : List Char} {document : Document} {files after : Files}

theorem unifyNewlines_cons {c : Char} (hc : c ≠ '\r') (rest : List Char) :
    unifyNewlines (c :: rest) = c :: unifyNewlines rest :=
  unifyNewlines.eq_3 c rest (fun _ h => (hc h).elim) hc

theorem not_mem_unifyNewlines (text : List Char) : '\r' ∉ unifyNewlines text := by
  induction text using unifyNewlines.induct with
  | case1 rest ih => simpa [unifyNewlines] using ih
  | case2 rest _ ih => simpa [unifyNewlines] using ih
  | case3 c rest _ hc ih =>
    rw [unifyNewlines_cons hc]
    exact fun hm => (List.mem_cons.mp hm).elim (fun h => hc h.symm) ih
  | case4 => exact List.not_mem_nil

/-- A text keeps its line ends if they are newlines. -/
theorem unifyNewlines_eq_self_iff : unifyNewlines text = text ↔ '\r' ∉ text := by
  constructor
  · intro h
    rw [← h]
    exact not_mem_unifyNewlines text
  · intro h
    induction text with
    | nil => rfl
    | cons c text ih =>
      have hc : c ≠ '\r' := fun hc => h (hc ▸ List.mem_cons_self)
      rw [unifyNewlines_cons hc, ih fun hm => h (List.mem_cons_of_mem c hm)]

theorem encode_injective {first second : List Char} (h : encode first = encode second) :
    first = second := by
  have hfirst := Text.Utf8.decode_encode first
  rw [h, Text.Utf8.decode_encode] at hfirst
  exact (Except.ok.inj hfirst).symm

theorem encode_unifyNewlines_iff {bytes : List UInt8} (h : decode bytes = .ok text) :
    encode (unifyNewlines text) = bytes ↔ '\r' ∉ text := by
  rw [← Text.Utf8.encode_of_decode h, ← unifyNewlines_eq_self_iff]
  exact ⟨encode_injective, fun h => congrArg encode h⟩

theorem text_ofText (id : Nat) (text : List Char) (filename : Option String) :
    (ofText id text filename).text = text := Text.joinWith_splitOn '\n' text

theorem not_mem_text_iff : '\r' ∉ document.text ↔ ∀ line ∈ document.lines, '\r' ∉ line := by
  rw [Document.text, Text.mem_joinWith (by decide)]
  simp

theorem save_eq {path : Option String} {target : String}
    (htarget : path.or document.filename = some target)
    (hwrite : files.write (Path.normal target) (encode document.text) = .ok after) :
    document.save files path =
      .ok (after, { document with filename := some (Path.normal target) }) := by
  unfold save
  rw [htarget]
  dsimp only
  rw [hwrite]

theorem ofFile_eq {bytes : List UInt8} {path : String} (id : Nat)
    (hread : files.read (Path.normal path) = .ok bytes) (hdecode : decode bytes = .ok text) :
    ofFile files id path =
      .ok (ofText id (unifyNewlines text) (some (Path.normal path))) := by
  unfold ofFile readText
  dsimp only
  rw [hread]
  dsimp only
  rw [hdecode]
  rfl

/-- A file that was opened and is saved as it is: its text is the old one with a newline for each
line end. -/
theorem save_opened (hfiles : files.Consistent) (id : Nat) {path : String} {bytes : List UInt8}
    {executable : Bool} (hfind : files.find (Path.normal path) = .ok (.file bytes executable))
    (hdecode : decode bytes = .ok text) : ∃ document after,
      ofFile files id path = .ok document ∧ document.save files none = .ok (after, document) ∧
        after.read (Path.normal path) = .ok (encode (unifyNewlines text)) := by
  have hread : files.read (Path.normal path) = .ok bytes := by
    rw [Files.read, hfind]
    rfl
  have hdevice : files.device? (Path.normal path) = none := by rw [Files.device?, hfind]
  obtain ⟨after, hwrite⟩ := Files.exists_write hfind (encode (unifyNewlines text))
  let document := ofText id (unifyNewlines text) (some (Path.normal path))
  have hsave : document.save files none =
      .ok (after, { document with filename := some (Path.normal (Path.normal path)) }) := by
    refine save_eq rfl ?_
    rw [Path.normal_normal, text_ofText]
    exact hwrite
  rw [Path.normal_normal] at hsave
  exact ⟨document, after, ofFile_eq id hread hdecode, hsave,
    Files.read_write hfiles hdevice hwrite⟩

/-- A document that was saved and is opened again has the lines of its text with a newline for each
line end. -/
theorem open_saved (hfiles : files.Consistent) (id : Nat) {path : String} {saved : Document}
    (hdevice : files.device? (Path.normal path) = none)
    (h : document.save files (some path) = .ok (after, saved)) : ∃ opened,
      ofFile after id path = .ok opened ∧
        opened.lines = splitOn '\n' (unifyNewlines document.text) := by
  obtain ⟨target, htarget, hwrite, -⟩ := save_eq_ok h
  obtain rfl : path = target := Option.some.inj htarget
  have hread := Files.read_write hfiles hdevice hwrite
  exact ⟨_, ofFile_eq id hread (Text.Utf8.decode_encode document.text), rfl⟩

/-- Opening a file and saving it turns each line end into a newline, and so does saving a document
and opening it again: where there are carriage returns, the bytes and the lines change. -/
theorem saving_unifies_newlines (hfiles : files.Consistent) (id : Nat) :
    (∀ path bytes executable text,
      files.find (Path.normal path) = .ok (.file bytes executable) → decode bytes = .ok text →
        ∃ document after, ofFile files id path = .ok document ∧
          document.save files none = .ok (after, document) ∧
          after.read (Path.normal path) = .ok (encode (unifyNewlines text)) ∧
          (encode (unifyNewlines text) = bytes ↔ '\r' ∉ text)) ∧
      ∀ (document : Document) path after saved, document.IsLined →
        files.device? (Path.normal path) = none →
        document.save files (some path) = .ok (after, saved) →
          ∃ opened, ofFile after id path = .ok opened ∧
            opened.lines = splitOn '\n' (unifyNewlines document.text) ∧
            (opened.lines = document.lines ↔ ∀ line ∈ document.lines, '\r' ∉ line) := by
  constructor
  · intro path bytes executable text hfind hdecode
    obtain ⟨document, after, hopen, hsave, hread⟩ := save_opened hfiles id hfind hdecode
    exact ⟨document, after, hopen, hsave, hread, encode_unifyNewlines_iff hdecode⟩
  · intro document path after saved hlined hdevice hsave
    obtain ⟨opened, hopen, hlines⟩ := open_saved hfiles id hdevice hsave
    refine ⟨opened, hopen, hlines, ?_⟩
    rw [hlines, ← not_mem_text_iff, ← unifyNewlines_eq_self_iff]
    constructor
    · intro heq
      have hjoined := congrArg (joinWith '\n') heq
      rwa [Text.joinWith_splitOn] at hjoined
    · intro heq
      rw [heq, hlined.split]

/-- A tree of one file, whose two lines have a carriage return and a newline between them. -/
def returnTree : Files :=
  { Files.empty [] with nodes := [([['a']], .file [0x61, 0x0d, 0x0a, 0x62] false)] }

/-- A document with a carriage return in its line. -/
def returnDocument : Document := ofText 1 ['a', '\r', 'b'] none

/-- The tree after that document was saved in it. -/
def returnTreeAfter : Files := returnTree.set [['b']] (.file [0x61, 0x0d, 0x62] false)

theorem returns_unified :
    (∃ document after, ofFile returnTree 1 "a" = .ok document ∧
      document.save returnTree none = .ok (after, document) ∧
      after.read (Path.normal "a") = .ok (encode (unifyNewlines ['a', '\r', '\n', 'b'])) ∧
      (encode (unifyNewlines ['a', '\r', '\n', 'b']) = [0x61, 0x0d, 0x0a, 0x62] ↔
        '\r' ∉ ['a', '\r', '\n', 'b'])) ∧
      ∃ opened, ofFile returnTreeAfter 1 "b" = .ok opened ∧
        opened.lines = splitOn '\n' (unifyNewlines returnDocument.text) ∧
        (opened.lines = returnDocument.lines ↔ ∀ line ∈ returnDocument.lines, '\r' ∉ line) := by
  have hfiles : returnTree.Consistent := Files.consistent_of_unshared rfl
  obtain ⟨hopened, hsaved⟩ := saving_unifies_newlines hfiles 1
  refine ⟨hopened "a" [0x61, 0x0d, 0x0a, 0x62] false ['a', '\r', '\n', 'b'] rfl rfl, ?_⟩
  exact hsaved returnDocument "b" returnTreeAfter { returnDocument with filename := some "b" }
    (isLined_ofText _ _ _) rfl rfl

/-- The bytes of a file and the line of a document with carriage returns are not there again. -/
theorem returns_are_lost :
    (∃ document after, returnTree.read "a" = .ok [0x61, 0x0d, 0x0a, 0x62] ∧
      ofFile returnTree 1 "a" = .ok document ∧
      document.save returnTree none = .ok (after, document) ∧
      after.read "a" = .ok [0x61, 0x0a, 0x62]) ∧
      ∃ opened saved, returnDocument.save returnTree (some "b") = .ok (returnTreeAfter, saved) ∧
        ofFile returnTreeAfter 2 "b" = .ok opened ∧
        returnDocument.lines = [['a', '\r', 'b']] ∧ opened.lines = [['a'], ['b']] := by
  refine ⟨⟨ofText 1 ['a', '\n', 'b'] (some "a"),
    returnTree.set [['a']] (.file [0x61, 0x0a, 0x62] false), rfl, rfl, rfl, rfl⟩,
    ofText 2 ['a', '\n', 'b'] (some "b"), { returnDocument with filename := some "b" }, ?_⟩
  exact ⟨rfl, rfl, rfl, rfl⟩

end Document

end Gutter
