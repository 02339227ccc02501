import Mathlib.Data.List.Find
import Cartridge.Proofs.Text.Pieces
import Cartridge.Web.Page

/-!
# The placeholders of the web page

A page is filled in passes, one for each placeholder, so a pass also goes over the values that
the passes before it have put in.  On every page whose placeholders stand apart from other
capitals and underscores, the passes are one substitution of all placeholders at once, with each
value run through the later passes first (`fillPage_eq_substitute`).  The values themselves are
put in as they are just when those passes leave all of them alone.
-/

namespace Cartridge.Web

/-- The characters of placeholders. -/
def isMark (c : Char) : Bool :=
  c == '_' || c.isUpper

/-- Replaces all placeholders at once, from left to right; `skip` characters belong to one that
is already replaced. -/
def substituteFrom (fillings : List (String × String)) (skip : Nat) : List Char → List Char
  | [] => []
  | c :: rest =>
    match skip with
    | n + 1 => substituteFrom fillings n rest
    | 0 =>
      match fillings.find? fun filling => filling.1.toList.isPrefixOf (c :: rest) with
      | some filling =>
        filling.2.toList ++ substituteFrom fillings (filling.1.toList.length - 1) rest
      | none => c :: substituteFrom fillings 0 rest

/-- A page with every placeholder replaced by its value and all else as it was. -/
def substitute (fillings : List (String × String)) (page : String) : String :=
  String.ofList (substituteFrom fillings 0 page.toList)

/-- A page after one pass for each placeholder. -/
def passes (fillings : List (String × String)) (page : String) : String :=
  fillings.foldl (fun page filling => Text.replace filling.1 filling.2 page) page

/-- The placeholders with their values after the later passes. -/
def refilled : List (String × String) → List (String × String)
  | [] => []
  | filling :: later => (filling.1, passes later filling.2) :: refilled later

def placeholders : List String :=
  ["___PROJECT_NAME___", "___AUTHOR___", "___COLORS_HEAD___", "___PROJECT_HEAD___",
    "___CUSTOM_CONTROLS___"]

/-- Every word of capitals and underscores on the page is a placeholder or holds none. -/
def StandApart (page : String) : Prop :=
  ∀ word ∈ Text.pieces (!isMark ·) page.toList,
    String.ofList word ∈ placeholders ∨ ∀ token ∈ placeholders, ¬ token.toList <:+: word

instance (page : String) : Decidable (StandApart page) :=
  inferInstanceAs (Decidable (∀ word ∈ _, _))

/-- Placeholders that cannot be taken for one another. -/
structure Distinguished (tokens : List String) : Prop where
  ne_nil : ∀ token ∈ tokens, token.toList ≠ []
  isMark : ∀ token ∈ tokens, token.toList.all isMark = true
  apart : tokens.Pairwise fun token other =>
    ¬ token.toList <:+: other.toList ∧ ¬ other.toList <:+: token.toList

lemma distinguished_placeholders : Distinguished placeholders :=
  ⟨by decide, by decide, by decide +kernel⟩

variable {places later : List (String × String)} {filling : String × String} {c : Char}
  {before after word : List Char}

lemma Distinguished.sublist {tokens others : List String} (h : Distinguished tokens)
    (hsub : others.Sublist tokens) : Distinguished others :=
  ⟨fun token ht => h.ne_nil token (hsub.subset ht), fun token ht => h.isMark token (hsub.subset ht),
    h.apart.sublist hsub⟩

lemma Distinguished.of_cons (h : Distinguished ((filling :: later).map Prod.fst)) :
    Distinguished (later.map Prod.fst) :=
  h.sublist (List.sublist_cons_self _ _)

lemma Distinguished.single (h : Distinguished ((filling :: later).map Prod.fst)) :
    Distinguished ([filling].map Prod.fst) :=
  h.sublist (List.singleton_sublist.mpr List.mem_cons_self)

lemma map_fst_refilled (places : List (String × String)) :
    (refilled places).map Prod.fst = places.map Prod.fst := by
  induction places with
  | nil => rfl
  | cons filling later ih => rw [refilled, List.map_cons, ih, List.map_cons]

/-! ## One substitution -/

lemma replaceFrom_eq_substituteFrom (filling : String × String) (skip : Nat) (text : List Char) :
    Text.replaceFrom filling.1.toList filling.2.toList skip text =
      substituteFrom [filling] skip text := by
  induction text generalizing skip with
  | nil => rfl
  | cons c rest ih =>
    cases skip with
    | succ n => exact ih n
    | zero =>
      cases hstands : filling.1.toList.isPrefixOf (c :: rest) <;>
        simp [Text.replaceFrom, substituteFrom, hstands, ih]

lemma substituteFrom_of_length_le {skip : Nat} {text : List Char} (h : text.length ≤ skip) :
    substituteFrom places skip text = [] := by
  induction text generalizing skip with
  | nil => rfl
  | cons c rest ih =>
    obtain ⟨n, rfl⟩ : ∃ n, skip = n + 1 := ⟨skip - 1, by rw [List.length_cons] at h; omega⟩
    exact ih (by simpa using h)

/-- A text that holds no placeholder stays as it is. -/
lemma substituteFrom_eq_self {text : List Char}
    (h : ∀ filling ∈ places, ¬ filling.1.toList <:+: text) :
    substituteFrom places 0 text = text := by
  induction text with
  | nil => rfl
  | cons c rest ih =>
    have hnone : places.find? (fun filling => filling.1.toList.isPrefixOf (c :: rest)) = none :=
      List.find?_eq_none.mpr fun filling hmem hstands =>
        h filling hmem (List.isPrefixOf_iff_prefix.mp hstands).isInfix
    rw [substituteFrom, hnone]
    exact congrArg (c :: ·) (ih fun filling hmem hin => h filling hmem (hin.trans
      (List.suffix_cons c rest).isInfix))

/-- A placeholder that stands alone is replaced by its value. -/
lemma substituteFrom_token (h : Distinguished (places.map Prod.fst)) (hmem : filling ∈ places) :
    substituteFrom places 0 filling.1.toList = filling.2.toList := by
  have hfind : places.find? (fun other => other.1.toList.isPrefixOf filling.1.toList) =
      some filling := by
    induction places with
    | nil => exact absurd hmem List.not_mem_nil
    | cons other later ih =>
      rcases List.mem_cons.mp hmem with rfl | hlater
      · exact List.find?_cons_of_pos (List.isPrefixOf_iff_prefix.mpr List.prefix_rfl)
      · have hother := (List.rel_of_pairwise_cons h.apart (List.mem_map_of_mem hlater)).1
        have hskip : ¬ other.1.toList.isPrefixOf filling.1.toList = true := fun hstands =>
          hother (List.isPrefixOf_iff_prefix.mp hstands).isInfix
        rw [List.find?_cons_of_neg (by exact hskip)]
        exact ih h.of_cons hlater
  cases htoken : filling.1.toList with
  | nil => exact absurd htoken (h.ne_nil _ (List.mem_map_of_mem hmem))
  | cons c rest =>
    rw [htoken] at hfind
    rw [substituteFrom, hfind]
    exact (congrArg (filling.2.toList ++ ·)
      (substituteFrom_of_length_le (by simp [htoken]))).trans (List.append_nil _)

lemma substitute_token (h : Distinguished (places.map Prod.fst)) (hmem : filling ∈ places) :
    substitute places filling.1 = filling.2 := by
  rw [substitute, substituteFrom_token h hmem, String.ofList_toList]

/-- No placeholder reaches over a character that stands in none. -/
lemma substituteFrom_append_cons {skip : Nat} (h : Distinguished (places.map Prod.fst))
    (hc : isMark c = false) (hskip : skip ≤ before.length) :
    substituteFrom places skip (before ++ c :: after) =
      substituteFrom places skip before ++ c :: substituteFrom places 0 after := by
  have hnot : ∀ filling ∈ places, c ∉ filling.1.toList := fun filling hmem hin => by
    simp [List.all_eq_true.mp (h.isMark _ (List.mem_map_of_mem hmem)) c hin] at hc
  induction before generalizing skip with
  | nil =>
    obtain rfl : skip = 0 := Nat.le_zero.mp hskip
    have hnone : places.find? (fun filling => filling.1.toList.isPrefixOf (c :: after)) = none :=
      List.find?_eq_none.mpr fun filling hmem hstands =>
        h.ne_nil _ (List.mem_map_of_mem hmem) (List.prefix_nil.mp
          ((Text.isPrefix_append_cons_iff (hnot filling hmem)).mp
            (List.isPrefixOf_iff_prefix.mp hstands)))
    simp only [List.nil_append, substituteFrom, hnone]
  | cons d rest ih =>
    cases skip with
    | succ n => exact ih (by simpa using hskip)
    | zero =>
      have hsame : places.find? (fun filling =>
            filling.1.toList.isPrefixOf (d :: (rest ++ c :: after))) =
          places.find? fun filling => filling.1.toList.isPrefixOf (d :: rest) :=
        List.find?_congr fun filling hmem => by
          rw [Bool.eq_iff_iff, List.isPrefixOf_iff_prefix, List.isPrefixOf_iff_prefix,
            ← List.cons_append, Text.isPrefix_append_cons_iff (hnot filling hmem)]
      simp only [List.cons_append, substituteFrom, hsame]
      cases hfind : places.find? fun filling => filling.1.toList.isPrefixOf (d :: rest) with
      | none => exact congrArg (d :: ·) (ih (Nat.zero_le _))
      | some filling =>
        have hstands := List.find?_some hfind
        have hlength := (List.isPrefixOf_iff_prefix.mp hstands).length_le
        rw [List.length_cons] at hlength
        simp only [ih (show filling.1.toList.length - 1 ≤ rest.length by omega),
          List.append_assoc]

/-! ## The passes -/

lemma toList_passes_cons (filling : String × String) (later : List (String × String))
    (text : List Char) :
    passes (filling :: later) (String.ofList text) =
      passes later (String.ofList (substituteFrom [filling] 0 text)) := by
  rw [passes, List.foldl_cons, Text.replace, String.toList_ofList,
    replaceFrom_eq_substituteFrom, passes]

lemma passes_append_cons (h : Distinguished (places.map Prod.fst)) (hc : isMark c = false) :
    (passes places (String.ofList (before ++ c :: after))).toList =
      (passes places (String.ofList before)).toList ++
        c :: (passes places (String.ofList after)).toList := by
  induction places generalizing before after with
  | nil => simp [passes]
  | cons filling later ih =>
    simp only [toList_passes_cons]
    rw [substituteFrom_append_cons h.single hc (Nat.zero_le _), ih h.of_cons]

lemma passes_eq_self (h : ∀ filling ∈ places, ¬ filling.1.toList <:+: word) :
    passes places (String.ofList word) = String.ofList word := by
  induction places with
  | nil => rfl
  | cons filling later ih =>
    rw [List.forall_mem_cons] at h
    rw [toList_passes_cons, substituteFrom_eq_self (by simpa using h.1), ih h.2]

/-- A placeholder that stands alone ends as its value after the later passes. -/
lemma exists_refilled (h : Distinguished (places.map Prod.fst)) {token : String}
    (hmem : token ∈ places.map Prod.fst) :
    (token, passes places token) ∈ refilled places := by
  induction places with
  | nil => exact absurd hmem List.not_mem_nil
  | cons filling later ih =>
    rw [refilled, ← String.ofList_toList (s := token), toList_passes_cons, String.ofList_toList]
    rcases List.mem_cons.mp hmem with rfl | hlater
    · rw [substituteFrom_token h.single List.mem_cons_self, String.ofList_toList]
      exact List.mem_cons_self
    · have hfirst := (List.rel_of_pairwise_cons h.apart hlater).1
      rw [substituteFrom_eq_self (by simpa using hfirst), String.ofList_toList]
      exact List.mem_cons_of_mem _ (ih h.of_cons hlater)

/-- The two ways of filling agree on one word of the page. -/
lemma passes_word (htokens : places.map Prod.fst = placeholders)
    (hword : String.ofList word ∈ placeholders ∨
      ∀ token ∈ placeholders, ¬ token.toList <:+: word) :
    (passes places (String.ofList word)).toList = substituteFrom (refilled places) 0 word := by
  have hdistinct : Distinguished (places.map Prod.fst) := htokens ▸ distinguished_placeholders
  rcases hword with htoken | hnone
  · have hmem := exists_refilled hdistinct (htokens ▸ htoken)
    have hone := substituteFrom_token (map_fst_refilled places ▸ hdistinct) hmem
    rwa [String.toList_ofList, eq_comm] at hone
  · have hno : ∀ list : List (String × String), list.map Prod.fst = placeholders →
        ∀ filling ∈ list, ¬ filling.1.toList <:+: word := fun list hlist filling hmem =>
      hnone _ (hlist ▸ List.mem_map_of_mem hmem)
    rw [passes_eq_self (hno _ htokens), String.toList_ofList,
      substituteFrom_eq_self (hno _ ((map_fst_refilled places).trans htokens))]

/-- On pages whose placeholders stand apart, the passes are one substitution. -/
lemma passes_eq_substitute (htokens : places.map Prod.fst = placeholders) {page : String}
    (hpage : StandApart page) : passes places page = substitute (refilled places) page := by
  have hdistinct : Distinguished (places.map Prod.fst) := htokens ▸ distinguished_placeholders
  suffices hchars : ∀ text : List Char, StandApart (String.ofList text) →
      (passes places (String.ofList text)).toList = substituteFrom (refilled places) 0 text by
    rw [substitute, ← hchars _ (by rwa [String.ofList_toList]), String.ofList_toList,
      String.ofList_toList]
  intro text happart
  rw [StandApart, String.toList_ofList] at happart
  -- Word by word: both ways of filling leave the character after a word where it is.
  induction hlength : text.length using Nat.strong_induction_on generalizing text with
  | _ n ih =>
    have hword : Text.pieces (!isMark ·) (text.takeWhile isMark) = [text.takeWhile isMark] :=
      Text.pieces_eq_singleton fun c hc => by
        simpa using List.all_eq_true.mp List.all_takeWhile c hc
    have htext := List.takeWhile_append_dropWhile (p := isMark) (l := text)
    have hnext := List.head?_dropWhile_not isMark text
    cases hrest : text.dropWhile isMark with
    | nil =>
      rw [hrest, List.append_nil] at htext
      rw [htext] at hword
      exact passes_word htokens (happart text (hword ▸ List.mem_singleton_self _))
    | cons c after =>
      rw [hrest] at htext hnext
      have hc : isMark c = false := hnext
      have hpieces : Text.pieces (!isMark ·) text =
          text.takeWhile isMark :: Text.pieces (!isMark ·) after := by
        rw [← htext, Text.pieces_append_cons (by simp [hc]), htext, hword, List.singleton_append]
      rw [hpieces, List.forall_mem_cons] at happart
      rw [← htext, passes_append_cons hdistinct hc, substituteFrom_append_cons
        (map_fst_refilled places ▸ hdistinct) hc (Nat.zero_le _),
        passes_word htokens happart.1, ih after.length ?_ after happart.2 rfl]
      rw [← hlength, ← htext, List.length_append, List.length_cons]
      omega

/-- Pairs are told by their first parts where a function gives the second ones. -/
lemma eq_of_map_fst_eq {others : List (String × String)} {value : String → String}
    (hfst : places.map Prod.fst = others.map Prod.fst)
    (hplaces : ∀ place ∈ places, value place.1 = place.2)
    (hothers : ∀ place ∈ others, value place.1 = place.2) : places = others := by
  have hmap : ∀ list : List (String × String), (∀ place ∈ list, value place.1 = place.2) →
      (list.map Prod.fst).map (fun token => (token, value token)) = list := fun list hlist => by
    rw [List.map_map]
    conv_rhs => rw [← List.map_id list]
    exact List.map_congr_left fun place hmem => Prod.ext rfl (hlist place hmem)
  rw [← hmap places hplaces, hfst, hmap others hothers]

/-- Passes over a page whose placeholders stand apart are one substitution of all placeholders,
each value run through the later passes; they put all values in as they are on every such page
just when the later passes change none of them. -/
theorem fillPage_eq_substitute (project : Project) :
    (∀ page, StandApart page →
      fillPage page project = substitute (refilled (fillings project)) page) ∧
    ((∀ page, StandApart page → fillPage page project = substitute (fillings project) page) ↔
      refilled (fillings project) = fillings project) := by
  have htokens : (fillings project).map Prod.fst = placeholders := rfl
  have hrefilled := (map_fst_refilled (fillings project)).trans htokens
  have hfill : ∀ page, StandApart page →
      fillPage page project = substitute (refilled (fillings project)) page :=
    fun page hpage => passes_eq_substitute htokens hpage
  refine ⟨hfill, fun hverbatim => ?_, fun hsame page hpage => by rw [hfill page hpage, hsame]⟩
  -- Each placeholder is a page of its own, on which the two substitutions show their values.
  have halone : ∀ token ∈ placeholders, StandApart token := by decide +kernel
  refine eq_of_map_fst_eq (hrefilled.trans htokens.symm) (fun place hmem => ?_) fun place hmem =>
    substitute_token (htokens ▸ distinguished_placeholders) hmem
  have htoken := halone place.1 (hrefilled ▸ List.mem_map_of_mem hmem)
  rw [← hverbatim _ htoken, hfill _ htoken]
  exact substitute_token (hrefilled ▸ distinguished_placeholders) hmem

/-- A name that is the placeholder of the author does not get onto the page. -/
theorem name_is_filled_again :
    let project : Project := { metadata := { name := "___AUTHOR___", author := "Sam" } }
    StandApart "___PROJECT_NAME___" ∧ fillPage "___PROJECT_NAME___" project = "Sam" ∧
      substitute (fillings project) "___PROJECT_NAME___" = "___AUTHOR___" := by
  decide +kernel

end Cartridge.Web
