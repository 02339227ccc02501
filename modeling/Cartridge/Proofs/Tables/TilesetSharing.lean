import Mathlib.Data.List.Pairwise
import Cartridge.Proofs.Digest.Encoding
import Cartridge.Proofs.Source.Stems
import Cartridge.Proofs.Tables.References

/-!
# Tile data is shared where that is allowed, and nowhere else

Backgrounds are added one by one, and each may store the data of two banks.  `Emits` says what one
bank does to the tilesets that are there, in terms of the data alone: empty data is left out, data
that is there already may be pointed to by a background that is built against a common tileset, and
all other data is stored under a symbol of the background.

The store knows its data by keys.  It is `Faithful` as long as every key it knows is that of data
under the symbol it gives, and the keys of all its data are known.  Later data with the same content
takes over the key and leaves this as it is.  Without a collision of the digest a faithful store
does what `Emits` says (`emits_intern`), and so does every background of a table
(`emits_assemble`).

Symbols of tilesets are made from those of backgrounds with two endings, so `x_cgb` and `x` lead to
one symbol for two tilesets (`tileset_symbols_clash_at_suffix`).  Backgrounds get their symbols
together with all companions, and then this does not happen (`planned_apart`).
-/

namespace Cartridge.Tables

open Cartridge.Digest (CollisionFree keyStream)
open Cartridge.Project
open Cartridge.Symbol (Allocator family)
open Cartridge.Tile (EncodedBackground)

/-! ## One bank -/

/-- What the data of one bank does to the tilesets emitted before it: the symbol by which its
background then names it, and the tilesets that are there afterwards. -/
inductive Emits (before : List Blob) (mayShare : Bool) (data : List UInt8) (symbol : String) :
    Option String → List Blob → Prop
  | nothing (hempty : data = []) : Emits before mayShare data symbol none before
  | shared {name : String} (hallowed : mayShare = true) (hdata : data ≠ [])
      (hstored : ⟨name, data⟩ ∈ before) : Emits before mayShare data symbol (some name) before
  | own (hdata : data ≠ []) (hnew : mayShare = true → ∀ blob ∈ before, blob.data ≠ data) :
      Emits before mayShare data symbol (some symbol) (before ++ [⟨symbol, data⟩])

/-- Data is named by the symbol of a blob that holds it, and empty data is not named. -/
def NamedIn (blobs : List Blob) (data : List UInt8) (name : Option String) : Prop :=
  (data = [] ∧ name = none) ∨ (data ≠ [] ∧ ∃ symbol, name = some symbol ∧ ⟨symbol, data⟩ ∈ blobs)

section

variable {before after later : List Blob} {mayShare : Bool} {data : List UInt8} {symbol : String}
  {name : Option String}

lemma Emits.isPrefix (h : Emits before mayShare data symbol name after) : before <+: after := by
  cases h with
  | nothing => exact List.prefix_rfl
  | shared => exact List.prefix_rfl
  | own => exact List.prefix_append _ _

/-- A background that may not share has its data under its own symbol. -/
lemma Emits.eq_of_alone (h : Emits before false data symbol name after) (hne : data ≠ []) :
    name = some symbol ∧ after = before ++ [⟨symbol, data⟩] := by
  cases h with
  | nothing hempty => exact absurd hempty hne
  | shared hallowed => cases hallowed
  | own => exact ⟨rfl, rfl⟩

lemma Emits.namedIn (h : Emits before mayShare data symbol name after) (hlater : after <+: later) :
    NamedIn later data name := by
  cases h with
  | nothing hempty => exact .inl ⟨hempty, rfl⟩
  | shared _ hdata hstored => exact .inr ⟨hdata, _, rfl, hlater.subset hstored⟩
  | own hdata =>
    exact .inr ⟨hdata, _, rfl, hlater.subset (List.mem_append_right _ (List.mem_singleton_self _))⟩

end

namespace TilesetStore

/-- The store knows the keys of all its data, and gives for a key the symbol of data with that
key. -/
structure Faithful (IsData : List UInt8 → Prop) (store : TilesetStore) : Prop where
  named : ∀ entry ∈ store.known, ∃ data, IsData data ∧ entry.1 = keyOf data ∧
    ⟨entry.2, data⟩ ∈ store.tilesets
  known : ∀ blob ∈ store.tilesets, ∃ name, (keyOf blob.data, name) ∈ store.known

section

variable {IsData : List UInt8 → Prop} {store : TilesetStore}

lemma Faithful.push (h : store.Faithful IsData) {data : List UInt8} (hdata : IsData data)
    (symbol : String) : (store.push data symbol).Faithful IsData := by
  constructor
  · intro entry hentry
    rcases List.mem_cons.mp hentry with rfl | hknown
    · exact ⟨data, hdata, rfl, List.mem_append_right _ (List.mem_singleton_self _)⟩
    · obtain ⟨found, hfound, hkey, hmem⟩ := h.named entry hknown
      exact ⟨found, hfound, hkey, List.mem_append_left _ hmem⟩
  · intro blob hblob
    rcases List.mem_append.mp hblob with hold | hnew
    · obtain ⟨name, hname⟩ := h.known blob hold
      exact ⟨name, List.mem_cons_of_mem _ hname⟩
    · rw [List.mem_singleton] at hnew
      subst hnew
      exact ⟨symbol, List.mem_cons_self⟩

variable (hkeys : ∀ data other, IsData data → IsData other → keyOf data = keyOf other →
  data = other)
include hkeys

/-- Where keys tell data apart, a faithful store goes by the data alone and stays faithful. -/
lemma emits_intern (h : store.Faithful IsData) (mayShare : Bool) {data : List UInt8}
    (hdata : IsData data) (hne : data ≠ []) (symbol : String) :
    Emits store.tilesets mayShare data symbol (some (store.intern mayShare data symbol).1)
        (store.intern mayShare data symbol).2.tilesets ∧
      (store.intern mayShare data symbol).2.Faithful IsData := by
  unfold intern
  split
  · rename_i existing hlookup
    obtain ⟨found, hfound, hkey, hmem⟩ := h.named _ (mem_of_lookup_eq_some hlookup)
    obtain rfl := hkeys data found hdata hfound hkey
    exact ⟨.shared rfl hne hmem, h⟩
  · rename_i hnone
    refine ⟨.own hne ?_, h.push hdata symbol⟩
    rintro rfl blob hblob rfl
    -- the key of stored data is known, so sharing would have found it
    obtain ⟨name, hname⟩ := h.known blob hblob
    cases hlookup : store.known.lookup (keyOf blob.data) with
    | none => simpa using List.lookup_eq_none_iff.mp hlookup _ hname
    | some existing => exact hnone existing rfl hlookup

lemma emits_internSome (h : store.Faithful IsData) (mayShare : Bool) {data : List UInt8}
    (hdata : data ≠ [] → IsData data) (symbol : String) :
    Emits store.tilesets mayShare data symbol (store.internSome mayShare data symbol).1
        (store.internSome mayShare data symbol).2.tilesets ∧
      (store.internSome mayShare data symbol).2.Faithful IsData := by
  rw [internSome]
  split_ifs with hempty
  · exact ⟨.nothing (List.isEmpty_iff.mp hempty), h⟩
  · have hne : data ≠ [] := fun heq => hempty (List.isEmpty_iff.mpr heq)
    exact emits_intern hkeys h mayShare (hdata hne) hne symbol

end

end TilesetStore

/-! ## Adding backgrounds -/

/-- The banks of a background one after the other: from the tilesets before it to those after it. -/
def EmitsBoth (before : List Blob) (job : BackgroundJob) (encoded : EncodedBackground)
    (entry : BackgroundEntry) (after : List Blob) : Prop :=
  ∃ between,
    Emits before job.common.isSome encoded.bank1 (job.symbol ++ "_tileset") entry.tileset between ∧
    Emits between job.common.isSome encoded.bank2 (job.symbol ++ "_cgb_tileset")
      entry.colorTileset after

/-- What holds of tables and their store while backgrounds are added. -/
structure Sharing (IsData : List UInt8 → Prop) (state : Backgrounds × TilesetStore) : Prop where
  tilesets : state.1.tilesets = state.2.tilesets
  faithful : state.2.Faithful IsData

/-- The tables and the store after a list of backgrounds. -/
def addBackgrounds (state : Backgrounds × TilesetStore)
    (pairs : List (BackgroundJob × EncodedBackground)) : Backgrounds × TilesetStore :=
  pairs.foldl (fun state pair => addBackground state pair.1 pair.2) state

/-- The data of both banks counts as data, unless it is empty. -/
def Covers (IsData : List UInt8 → Prop) (encoded : EncodedBackground) : Prop :=
  (encoded.bank1 ≠ [] → IsData encoded.bank1) ∧ (encoded.bank2 ≠ [] → IsData encoded.bank2)

section

variable {IsData : List UInt8 → Prop}
  (hkeys : ∀ data other, IsData data → IsData other →
    TilesetStore.keyOf data = TilesetStore.keyOf other → data = other)
include hkeys

lemma emitsBoth_addBackground {state : Backgrounds × TilesetStore} (h : Sharing IsData state)
    (job : BackgroundJob) {encoded : EncodedBackground} (hdata : Covers IsData encoded) :
    Sharing IsData (addBackground state job encoded) ∧
      ∃ entry, (addBackground state job encoded).1.entries = state.1.entries ++ [entry] ∧
        EmitsBoth state.1.tilesets job encoded entry
          (addBackground state job encoded).1.tilesets := by
  obtain ⟨table, store⟩ := state
  obtain ⟨hfirst, hfaithful⟩ := TilesetStore.emits_internSome hkeys h.faithful job.common.isSome
    hdata.1 (job.symbol ++ "_tileset")
  obtain ⟨hsecond, hfaithful'⟩ := TilesetStore.emits_internSome hkeys hfaithful job.common.isSome
    hdata.2 (job.symbol ++ "_cgb_tileset")
  refine ⟨⟨rfl, hfaithful'⟩, _, rfl, _, ?_, hsecond⟩
  rw [h.tilesets]
  exact hfirst

/-- Adding backgrounds keeps what was emitted and what was entered, and adds one entry for each. -/
lemma sharing_addBackgrounds (pairs : List (BackgroundJob × EncodedBackground))
    {state : Backgrounds × TilesetStore} (h : Sharing IsData state)
    (hdata : ∀ pair ∈ pairs, Covers IsData pair.2) :
    Sharing IsData (addBackgrounds state pairs) ∧
      state.1.tilesets <+: (addBackgrounds state pairs).1.tilesets ∧
      state.1.entries <+: (addBackgrounds state pairs).1.entries ∧
      (addBackgrounds state pairs).1.entries.length = state.1.entries.length + pairs.length := by
  induction pairs generalizing state with
  | nil => exact ⟨h, List.prefix_rfl, List.prefix_rfl, rfl⟩
  | cons pair rest ih =>
    rw [List.forall_mem_cons] at hdata
    obtain ⟨hnext, entry, hentries, _, hfirst, hsecond⟩ :=
      emitsBoth_addBackground hkeys h pair.1 hdata.1
    obtain ⟨hfinal, htilesets, hentered, hlength⟩ := ih hnext hdata.2
    refine ⟨hfinal, (hfirst.isPrefix.trans hsecond.isPrefix).trans htilesets, ?_, ?_⟩
    · refine List.IsPrefix.trans ?_ hentered
      rw [hentries]
      exact List.prefix_append _ _
    · rw [hentries, List.length_append, List.length_singleton] at hlength
      rw [List.length_cons, ← Nat.add_assoc, Nat.add_right_comm]
      exact hlength

end

/-! ## The table -/

/-- A message whose digest is the key of tile data that is stored. -/
def IsTileMessage (jobs : List BackgroundJob) (encoded : List EncodedBackground)
    (message : List UInt8) : Prop :=
  ∃ pair ∈ jobs.zip encoded, ∃ data ∈ [pair.2.bank1, pair.2.bank2],
    data ≠ [] ∧ message = keyStream "tileset" [.bytes data]

/-- The tilesets that were emitted before the background at a place. -/
def emittedBefore (jobs : List BackgroundJob) (encoded : List EncodedBackground) (place : Nat) :
    List Blob :=
  (assembleBackgrounds (jobs.take place) (encoded.take place)).tilesets

section

variable {jobs : List BackgroundJob} {encoded : List EncodedBackground}

lemma sharing_start (IsData : List UInt8 → Prop) : Sharing IsData ({}, {}) :=
  ⟨rfl, by simp, by simp⟩

lemma keyOf_inj (hdigest : CollisionFree (IsTileMessage jobs encoded)) (data other : List UInt8)
    (hdata : IsTileMessage jobs encoded (keyStream "tileset" [.bytes data]))
    (hother : IsTileMessage jobs encoded (keyStream "tileset" [.bytes other]))
    (hkey : TilesetStore.keyOf data = TilesetStore.keyOf other) : data = other :=
  Digest.Call.bytes.inj (List.cons.inj (hdigest.ofCalls_inj hdata hother hkey)).1

lemma covers_of_mem {pair : BackgroundJob × EncodedBackground} (h : pair ∈ jobs.zip encoded) :
    Covers (fun data => IsTileMessage jobs encoded (keyStream "tileset" [.bytes data])) pair.2 :=
  ⟨fun hne => ⟨pair, h, _, by simp, hne, rfl⟩, fun hne => ⟨pair, h, _, by simp, hne, rfl⟩⟩

lemma emittedBefore_eq (place : Nat) : emittedBefore jobs encoded place =
    (addBackgrounds ({}, {}) ((jobs.zip encoded).take place)).1.tilesets := by
  rw [emittedBefore, List.zip, List.take_zipWith]
  rfl

lemma addBackgrounds_take_succ {pairs : List (BackgroundJob × EncodedBackground)} {place : Nat}
    {pair : BackgroundJob × EncodedBackground} (h : pairs[place]? = some pair)
    (state : Backgrounds × TilesetStore) :
    addBackgrounds state (pairs.take (place + 1)) =
      addBackground (addBackgrounds state (pairs.take place)) pair.1 pair.2 := by
  rw [addBackgrounds, List.take_add_one, h, List.foldl_append]
  rfl

/-- Each background of a table goes by the tilesets that were emitted before it, and all that was
emitted stays in the table. -/
lemma emits_assemble (hdigest : CollisionFree (IsTileMessage jobs encoded)) {place : Nat}
    {job : BackgroundJob} {data : EncodedBackground} (hjob : jobs[place]? = some job)
    (hencoded : encoded[place]? = some data) :
    ∃ entry, (assembleBackgrounds jobs encoded).entries[place]? = some entry ∧
      EmitsBoth (emittedBefore jobs encoded place) job data entry
        (emittedBefore jobs encoded (place + 1)) ∧
      emittedBefore jobs encoded (place + 1) <+: (assembleBackgrounds jobs encoded).tilesets := by
  have hpair : (jobs.zip encoded)[place]? = some (job, data) :=
    List.getElem?_zip_eq_some.mpr ⟨hjob, hencoded⟩
  have hkeys := keyOf_inj hdigest
  have hcovers : ∀ pair ∈ jobs.zip encoded, Covers _ pair.2 := fun pair => covers_of_mem
  -- the state before the place, the one behind it, and the last one
  obtain ⟨hbefore, -, -, hlength⟩ := sharing_addBackgrounds hkeys ((jobs.zip encoded).take place)
    (sharing_start _) fun pair hpair => hcovers pair (List.mem_of_mem_take hpair)
  obtain ⟨hbehind, entry, hentries, hemits⟩ := emitsBoth_addBackground hkeys hbefore job
    (hcovers (job, data) (List.mem_of_getElem? hpair))
  obtain ⟨-, htilesets, hentered, -⟩ := sharing_addBackgrounds hkeys
    ((jobs.zip encoded).drop (place + 1)) hbehind
    fun pair hpair => hcovers pair (List.mem_of_mem_drop hpair)
  rw [← addBackgrounds_take_succ hpair] at hentries hemits htilesets hentered
  have hall : (addBackgrounds (addBackgrounds ({}, {}) ((jobs.zip encoded).take (place + 1)))
      ((jobs.zip encoded).drop (place + 1))).1 = assembleBackgrounds jobs encoded := by
    rw [addBackgrounds, addBackgrounds, ← List.foldl_append, List.take_append_drop]
    rfl
  rw [hall] at htilesets hentered
  refine ⟨entry, ?_, ?_, ?_⟩
  · obtain ⟨rest, hrest⟩ := hentered
    have hplace : (addBackgrounds ({}, {}) ((jobs.zip encoded).take place)).1.entries.length =
        place := by
      rw [hlength, List.length_take, Nat.min_eq_left
        (Nat.le_of_lt (List.getElem?_eq_some_iff.mp hpair).1)]
      exact Nat.zero_add place
    rw [← hrest, hentries, List.append_assoc, List.singleton_append, List.getElem?_append_right
      (Nat.le_of_eq hplace), hplace, Nat.sub_self]
    rfl
  · rw [emittedBefore_eq, emittedBefore_eq]
    exact hemits
  · rw [emittedBefore_eq]
    exact htilesets

end

/-! ## Symbols of tilesets -/

/-- Tilesets have symbols of the backgrounds that emit them, in their order. -/
lemma symbols_addBackgrounds (pairs : List (BackgroundJob × EncodedBackground))
    (state : Backgrounds × TilesetStore) (h : state.1.tilesets = state.2.tilesets) :
    ((addBackgrounds state pairs).1.tilesets.map (·.symbol)).Sublist
      (state.1.tilesets.map (·.symbol) ++
        (pairs.map Prod.fst).flatMap fun job => tilesetSymbols job.symbol) := by
  induction pairs generalizing state with
  | nil => simp [addBackgrounds]
  | cons pair rest ih =>
    obtain ⟨added, htilesets, hadded⟩ := tilesets_addBackground h pair.1 pair.2
    have hrest := ih (addBackground state pair.1 pair.2) rfl
    rw [htilesets, List.map_append, List.append_assoc] at hrest
    refine hrest.trans ?_
    rw [List.map_cons, List.flatMap_cons]
    exact (List.Sublist.refl _).append (hadded.append (List.Sublist.refl _))

lemma symbols_assemble (jobs : List BackgroundJob) (encoded : List EncodedBackground) :
    ((assembleBackgrounds jobs encoded).tilesets.map (·.symbol)).Sublist
      (jobs.flatMap fun job => tilesetSymbols job.symbol) := by
  have hjobs : ((jobs.zip encoded).map Prod.fst).Sublist jobs := by
    rw [List.zip_eq_zip_take_min, List.map_fst_zip (by simp)]
    exact List.take_sublist _ _
  exact (symbols_addBackgrounds (jobs.zip encoded) ({}, {}) rfl).trans (hjobs.flatMap _)

/-- No two backgrounds can give a tileset the same symbol. -/
def SymbolsApart (jobs : List BackgroundJob) : Prop :=
  jobs.Pairwise fun job other =>
    (tilesetSymbols job.symbol).Disjoint (tilesetSymbols other.symbol)

lemma cgb_append_tileset (symbol : String) :
    symbol ++ "_cgb_tileset" = symbol ++ "_cgb" ++ "_tileset" := by
  rw [String.append_assoc]
  rfl

lemma nodup_tilesetSymbols (symbol : String) : (tilesetSymbols symbol).Nodup := by
  rw [tilesetSymbols, List.nodup_cons, List.mem_singleton, String.append_right_inj]
  exact ⟨by decide, List.nodup_singleton _⟩

lemma SymbolsApart.nodup {jobs : List BackgroundJob} (h : SymbolsApart jobs)
    (encoded : List EncodedBackground) :
    ((assembleBackgrounds jobs encoded).tilesets.map (·.symbol)).Nodup :=
  (symbols_assemble jobs encoded).nodup
    (List.nodup_flatMap.mpr ⟨fun job _ => nodup_tilesetSymbols job.symbol, h⟩)

lemma SymbolsApart.of_subset {jobs planned : List BackgroundJob} (h : SymbolsApart planned)
    (hsubset : jobs ⊆ planned) (hnodup : (jobs.map (·.symbol)).Nodup) : SymbolsApart jobs := by
  refine (List.pairwise_map.mp hnodup).imp_of_mem ?_
  intro job other hjob hother hne
  have : Std.Symm fun job other : BackgroundJob =>
      (tilesetSymbols job.symbol).Disjoint (tilesetSymbols other.symbol) :=
    ⟨fun _ _ => List.disjoint_symm⟩
  exact h.forall (hsubset hjob) (hsubset hother) fun heq => hne (congrArg _ heq)

/-- Symbols that differ lead to different symbols of tilesets, unless one is the other with `_cgb`
behind it. -/
lemma symbolsApart_of_nodup {jobs : List BackgroundJob} (hnodup : (jobs.map (·.symbol)).Nodup)
    (hcgb : ∀ job ∈ jobs, ∀ other ∈ jobs, other.symbol ≠ job.symbol ++ "_cgb") :
    SymbolsApart jobs := by
  refine (List.pairwise_map.mp hnodup).imp_of_mem ?_
  intro job other hjob hother hne name hname hname'
  simp only [tilesetSymbols, cgb_append_tileset, List.mem_cons, List.not_mem_nil, or_false]
    at hname hname'
  rcases hname with rfl | rfl <;> rcases hname' with heq | heq <;>
    rw [String.append_left_inj] at heq
  · exact hne heq
  · exact hcgb other hother job hjob heq
  · exact hcgb job hjob other hother heq.symm
  · exact hne ((String.append_left_inj _).mp heq)

lemma tilesetSymbols_subset_family (symbol : String) : tilesetSymbols symbol ⊆ family symbol := by
  have htileset : Symbol.companion symbol "tileset" ∈ family symbol :=
    List.mem_cons_of_mem _ (List.mem_map_of_mem (by decide))
  have hcgb : Symbol.companion symbol "cgb_tileset" ∈ family symbol :=
    List.mem_cons_of_mem _ (List.mem_map_of_mem (by decide))
  rw [Symbol.companion_eq] at htileset hcgb
  exact List.cons_subset.mpr ⟨htileset, List.cons_subset.mpr ⟨hcgb, List.nil_subset _⟩⟩

/-- Symbols that are handed out with their companions keep tilesets apart. -/
lemma planned_apart (project : Project) (used : List Background) (a : Allocator) :
    SymbolsApart (planBackgrounds project used a).1 := by
  have hfamilies := (hands_planBackgrounds project used a).disjoint
  rw [List.pairwise_map, List.pairwise_map] at hfamilies
  refine hfamilies.imp fun hdisjoint => ?_
  exact List.disjoint_of_subset_left (tilesetSymbols_subset_family _)
    (List.disjoint_of_subset_right (tilesetSymbols_subset_family _) hdisjoint)

/-! ## Sharing -/

/-- For backgrounds with different symbols, and without a collision of the digest, each one names
its data by tilesets of the table that hold exactly that data, and has no name for empty data.
Alone it stores all its data under its own symbols.  Against a common tileset it stores the data of
a bank only if no tileset before holds the same, its own first bank included, and else points to
such a tileset.  The tilesets have different symbols unless one background has the symbol of another
with `_cgb` behind it, which does not happen among backgrounds of one plan. -/
theorem tilesets_shared_where_allowed (jobs : List BackgroundJob)
    (encoded : List EncodedBackground) (hsymbols : (jobs.map (·.symbol)).Nodup)
    (hdigest : CollisionFree (IsTileMessage jobs encoded)) :
    ((∀ job ∈ jobs, ∀ other ∈ jobs, other.symbol ≠ job.symbol ++ "_cgb") →
      ((assembleBackgrounds jobs encoded).tilesets.map (·.symbol)).Nodup) ∧
    (∀ project used a, jobs ⊆ (planBackgrounds project used a).1 →
      ((assembleBackgrounds jobs encoded).tilesets.map (·.symbol)).Nodup) ∧
    ∀ (place : Nat) job data, jobs[place]? = some job → encoded[place]? = some data →
      ∃ entry, (assembleBackgrounds jobs encoded).entries[place]? = some entry ∧
        NamedIn (assembleBackgrounds jobs encoded).tilesets data.bank1 entry.tileset ∧
        NamedIn (assembleBackgrounds jobs encoded).tilesets data.bank2 entry.colorTileset ∧
        EmitsBoth (emittedBefore jobs encoded place) job data entry
          (emittedBefore jobs encoded (place + 1)) := by
  refine ⟨fun hcgb => (symbolsApart_of_nodup hsymbols hcgb).nodup encoded, ?_, ?_⟩
  · intro project used a hplanned
    exact ((planned_apart project used a).of_subset hplanned hsymbols).nodup encoded
  · intro place job data hjob hencoded
    obtain ⟨entry, hentry, hemits, hkept⟩ := emits_assemble hdigest hjob hencoded
    obtain ⟨between, hfirst, hsecond⟩ := hemits
    exact ⟨entry, hentry, hfirst.namedIn (hsecond.isPrefix.trans hkept), hsecond.namedIn hkept,
      between, hfirst, hsecond⟩

/-- A picture of one tile high and wide with some tile data. -/
def tinyPicture (bank1 bank2 : List UInt8) : EncodedBackground :=
  ⟨bank1, bank2, [], [], 1, 1, none⟩

/-- The digest tells apart what the banks of such pictures hold. -/
lemma collisionFree_tiny {jobs : List BackgroundJob} {encoded : List EncodedBackground}
    (h : ∀ data ∈ encoded, data.bank1 ∈ [[], [1], [2]] ∧ data.bank2 ∈ [[], [1], [2]]) :
    CollisionFree (IsTileMessage jobs encoded) := by
  have hmem : ∀ message, IsTileMessage jobs encoded message →
      message ∈ [[], [1], [2]].map fun bytes => keyStream "tileset" [.bytes bytes] := by
    rintro message ⟨⟨job, data⟩, hpair, bytes, hbytes, -, rfl⟩
    obtain ⟨hbank1, hbank2⟩ := h data (List.of_mem_zip hpair).2
    refine List.mem_map_of_mem ?_
    rcases List.mem_pair.mp hbytes with rfl | rfl
    · exact hbank1
    · exact hbank2
  exact .of_list hmem (by decide +kernel) (by decide +kernel)

/-- A background whose symbol is that of another with `_cgb` behind it. -/
def clashingJobs : List BackgroundJob :=
  [⟨{ id := "x" }, none, "x"⟩, ⟨{ id := "y" }, none, "x_cgb"⟩]

/-- One has data in its second bank, the other in its first. -/
def clashingPictures : List EncodedBackground :=
  [tinyPicture [] [1], tinyPicture [2] []]

/-- Symbols that merely differ do not keep tilesets apart: both backgrounds call theirs
`x_cgb_tileset`. -/
theorem tileset_symbols_clash_at_suffix :
    (clashingJobs.map (·.symbol)).Nodup ∧
      CollisionFree (IsTileMessage clashingJobs clashingPictures) ∧
      (assembleBackgrounds clashingJobs clashingPictures).tilesets.map (·.symbol) =
        ["x_cgb_tileset", "x_cgb_tileset"] :=
  ⟨by decide, collisionFree_tiny (by decide), by decide⟩

/-- Two backgrounds against a common tileset and one alone. -/
def sharingJobs : List BackgroundJob :=
  [⟨{ id := "a" }, some { id := "shared" }, "bg_a"⟩,
    ⟨{ id := "b" }, some { id := "shared" }, "bg_b"⟩, ⟨{ id := "c" }, none, "bg_c"⟩]

/-- All three have the same data in the first bank. -/
def sharingPictures : List EncodedBackground :=
  [tinyPicture [1] [1], tinyPicture [1] [2], tinyPicture [1] []]

lemma collisionFree_sharing : CollisionFree (IsTileMessage sharingJobs sharingPictures) :=
  collisionFree_tiny (by decide)

/-- The background alone owns its tileset although the others have the same data. -/
theorem tilesets_shared_where_allowed_trio :
    (sharingJobs.map (·.symbol)).Nodup ∧
      CollisionFree (IsTileMessage sharingJobs sharingPictures) ∧
      ((assembleBackgrounds sharingJobs sharingPictures).tilesets.map (·.symbol)).Nodup ∧
      ∃ entry, (assembleBackgrounds sharingJobs sharingPictures).entries[2]? = some entry ∧
        entry.tileset = some "bg_c_tileset" ∧ entry.colorTileset = none := by
  have hsymbols : (sharingJobs.map (·.symbol)).Nodup := by decide
  obtain ⟨hnodup, -, hentries⟩ := tilesets_shared_where_allowed sharingJobs sharingPictures hsymbols
    collisionFree_sharing
  obtain ⟨entry, hentry, -, hcolor, between, hfirst, -⟩ := hentries 2 _ _ rfl rfl
  refine ⟨hsymbols, collisionFree_sharing, hnodup (by decide), entry, hentry, ?_, ?_⟩
  · exact (hfirst.eq_of_alone (by decide)).1
  · rcases hcolor with ⟨-, hnone⟩ | ⟨hne, -⟩
    · exact hnone
    · exact absurd rfl hne

end Cartridge.Tables
