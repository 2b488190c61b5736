import SheaSymphony.Codes
import SheaSymphony.Fallible
import SheaSymphony.Pieces

/-!
# Links to a source

`validate_github_source_url` of the app's `external_links.rs` and the command that opens what
it accepts. An accepted link is an issue or a pull request link down to the digits of its
number; from the first `#`, `?` or further `/` on, it goes to the opener unread
(`accepted_safe_iff`).
-/

namespace SheaSymphony.App.Links

open Text (exists_of_splitOn_eq_cons_cons exists_splitOn_eq_cons splitOn_append_cons
  splitOn_eq_cons_iff)

/-! ## The validator -/

def validGithubSlug (value : String) : Bool :=
  value != "" && value.toList.all fun ch => ch.isAlphanum || ch == '-' || ch == '_' || ch == '.'

/-- What stands before the first `#` or `?`. -/
def beforeSuffix (number : String) : String :=
  String.ofList (number.toList.takeWhile fun ch => ch != '#' && ch != '?')

def isAllowedGithubSourcePath (path : String) : Bool :=
  match Text.splitChar '/' path with
  | owner :: repo :: kind :: number :: _ =>
      if (kind == "issues" || kind == "pull") && (validGithubSlug owner && validGithubSlug repo) then
        let number := beforeSuffix number
        number.toList.all Char.isDigit && number != ""
      else false
  | _ => false

def githubPrefix : String := "https://github.com/"

def validateGithubSourceUrl (url : String) : Except String Unit := do
  let path ← Fallible.okOr (Text.stripPrefix url githubPrefix)
    "Only GitHub source links can be opened."
  if isAllowedGithubSourcePath path then return
  else .error "Only GitHub issue, issue comment, and pull request links can be opened."

/-! ## The opener -/

inductive Platform where
  | macos | windows | otherUnix
deriving DecidableEq

/-- The program and the arguments that open a link. -/
def platformOpenCommand (url : String) : Platform → String × List String
  | .macos => ("open", [url])
  | .windows => ("cmd", ["/C", "start", "", url])
  | .otherUnix => ("xdg-open", [url])

/-- The command that is run for a link, if it is accepted. -/
def openGithubSource (platform : Platform) (url : String) : Except String (String × List String) := do
  validateGithubSourceUrl url
  return platformOpenCommand url platform

/-! ## Accepted links -/

/-- The characters of a link to the source `kind/number` of a repository. -/
def linkChars (owner repo kind number rest : List Char) : List Char :=
  githubPrefix.toList
    ++ (owner ++ '/' :: (repo ++ '/' :: (kind ++ '/' :: (number ++ rest))))

def IsKind (kind : List Char) : Prop := kind = "issues".toList ∨ kind = "pull".toList

def IsNumber (number : List Char) : Prop := number ≠ [] ∧ ∀ c ∈ number, c.isDigit = true

/-- A link the validator accepts. -/
structure SourceLink where
  owner : List Char
  repo : List Char
  kind : List Char
  number : List Char
  rest : List Char
  owner_valid : validGithubSlug (String.ofList owner) = true
  repo_valid : validGithubSlug (String.ofList repo) = true
  kind_valid : IsKind kind
  number_valid : IsNumber number
  rest_valid : ∀ c ∈ rest.head?, c = '/' ∨ c = '#' ∨ c = '?'

def SourceLink.chars (link : SourceLink) : List Char :=
  linkChars link.owner link.repo link.kind link.number link.rest

theorem slug_chars {value : List Char} (h : validGithubSlug (String.ofList value) = true) :
    value ≠ [] ∧ ∀ c ∈ value, c.isAlphanum = true ∨ c = '-' ∨ c = '_' ∨ c = '.' := by
  rw [validGithubSlug, Bool.and_eq_true, bne_iff_ne, String.toList_ofList, List.all_eq_true] at h
  refine ⟨fun hnil => h.1 (by rw [hnil]), fun c hc => ?_⟩
  simpa [or_assoc] using h.2 c hc

theorem slash_not_mem_slug {value : List Char} (h : validGithubSlug (String.ofList value) = true) :
    '/' ∉ value := fun hmem => by
  have hslash := (slug_chars h).2 '/' hmem
  revert hslash
  decide

theorem slash_not_mem_kind {kind : List Char} (h : IsKind kind) : '/' ∉ kind := by
  obtain rfl | rfl := h <;> decide

theorem takeWhile_number {number front : List Char} (hnumber : IsNumber number)
    (hfront : ∀ c ∈ front.head?, c = '#' ∨ c = '?') :
    (number ++ front).takeWhile (fun ch => ch != '#' && ch != '?') = number := by
  have hdigits : ∀ c ∈ number, (c != '#' && c != '?') = true := by
    intro c hc
    rw [Bool.and_eq_true, bne_iff_ne, bne_iff_ne]
    constructor
    · rintro rfl
      exact absurd (hnumber.2 _ hc) (by decide)
    · rintro rfl
      exact absurd (hnumber.2 _ hc) (by decide)
  rw [List.takeWhile_append_of_pos hdigits]
  cases front with
  | nil => simp
  | cons c front =>
      have hstop : ¬ (c != '#' && c != '?') = true := by
        obtain rfl | rfl := hfront c rfl <;> decide
      rw [List.takeWhile_cons, if_neg hstop, List.append_nil]

theorem isKind_iff {kind : List Char} :
    (String.ofList kind == "issues" || String.ofList kind == "pull") = true ↔ IsKind kind := by
  rw [Bool.or_eq_true, beq_iff_eq, beq_iff_eq, ← String.toList_inj, ← String.toList_inj,
    String.toList_ofList]
  rfl

theorem isNumber_iff {number : List Char} :
    ((beforeSuffix (String.ofList number)).toList.all Char.isDigit
        && beforeSuffix (String.ofList number) != "") = true
      ↔ IsNumber (number.takeWhile fun ch => ch != '#' && ch != '?') := by
  rw [beforeSuffix, String.toList_ofList, String.toList_ofList, Bool.and_eq_true,
    List.all_eq_true, bne_iff_ne, ne_eq, ← String.toList_inj, String.toList_ofList, and_comm]
  rfl

theorem isAllowed_eq_true_iff {path : String} :
    isAllowedGithubSourcePath path = true
      ↔ ∃ owner repo kind number more,
        path.toList.splitOn '/' = owner :: repo :: kind :: number :: more
        ∧ validGithubSlug (String.ofList owner) = true
        ∧ validGithubSlug (String.ofList repo) = true ∧ IsKind kind
        ∧ IsNumber (number.takeWhile fun ch => ch != '#' && ch != '?') := by
  rw [isAllowedGithubSourcePath, Text.splitChar]
  constructor
  · intro h
    split at h
    · next owner repo kind number more hsplit =>
      obtain ⟨owner, behindOwner, hpath, rfl, hrepos⟩ := List.map_eq_cons_iff.mp hsplit
      obtain ⟨repo, behindRepo, rfl, rfl, hkinds⟩ := List.map_eq_cons_iff.mp hrepos
      obtain ⟨kind, behindKind, rfl, rfl, hnumbers⟩ := List.map_eq_cons_iff.mp hkinds
      obtain ⟨number, more, rfl, rfl, rfl⟩ := List.map_eq_cons_iff.mp hnumbers
      split at h
      · next hguard =>
        rw [Bool.and_eq_true, isKind_iff, Bool.and_eq_true] at hguard
        exact ⟨owner, repo, kind, number, more, hpath, hguard.2.1, hguard.2.2, hguard.1,
          isNumber_iff.mp h⟩
      · cases h
    · cases h
  · rintro ⟨owner, repo, kind, number, more, hsplit, howner, hrepo, hkind, hnumber⟩
    rw [hsplit]
    simp only [List.map_cons]
    rw [isKind_iff.mpr hkind, howner, hrepo]
    exact isNumber_iff.mpr hnumber

theorem head?_dropWhile {number : List Char} :
    ∀ c ∈ (number.dropWhile fun ch => ch != '#' && ch != '?').head?, c = '#' ∨ c = '?' := by
  intro c hc
  have hstop := List.head?_dropWhile_not (fun ch => ch != '#' && ch != '?') number
  rw [hc] at hstop
  by_contra hne
  rw [not_or] at hne
  simp [hne.1, hne.2] at hstop

theorem accepted_iff {url : String} :
    validateGithubSourceUrl url = .ok () ↔ ∃ link : SourceLink, link.chars = url.toList := by
  constructor
  · intro h
    obtain ⟨path, hpath, h⟩ := Fallible.bind_eq_ok h
    rw [Fallible.okOr_eq_ok, Text.stripPrefix] at hpath
    split at hpath
    · next hstart =>
      obtain ⟨tail, htail⟩ := List.isPrefixOf_iff_prefix.mp hstart
      rw [← htail, List.drop_left, Option.some.injEq] at hpath
      split at h
      · next hallowed =>
        obtain ⟨owner, repo, kind, number, more, hsplit, howner, hrepo, hkind, hnumber⟩ :=
          isAllowed_eq_true_iff.mp hallowed
        rw [← hpath, String.toList_ofList] at hsplit
        obtain ⟨behindOwner, rfl, hrepos⟩ := exists_of_splitOn_eq_cons_cons hsplit
        obtain ⟨behindRepo, rfl, hkinds⟩ := exists_of_splitOn_eq_cons_cons hrepos
        obtain ⟨behindKind, rfl, hnumbers⟩ := exists_of_splitOn_eq_cons_cons hkinds
        obtain ⟨-, hrest⟩ := splitOn_eq_cons_iff.mp hnumbers
        have hcut := @List.takeWhile_append_dropWhile _ (fun ch => ch != '#' && ch != '?') number
        have hhead := @head?_dropWhile number
        generalize number.takeWhile (fun ch => ch != '#' && ch != '?') = digits at hcut hnumber
        generalize number.dropWhile (fun ch => ch != '#' && ch != '?') = front at hcut hhead
        subst hcut
        obtain ⟨rfl, -⟩ | ⟨back, rfl, -⟩ := hrest
        · exact ⟨⟨owner, repo, kind, digits, front, howner, hrepo, hkind, hnumber,
            fun c hc => .inr (hhead c hc)⟩, htail⟩
        · have hvalid : ∀ c ∈ (front ++ '/' :: back).head?, c = '/' ∨ c = '#' ∨ c = '?' := by
            intro c hc
            cases front with
            | nil =>
                rw [List.nil_append, List.head?_cons] at hc
                exact .inl (Option.some.inj hc).symm
            | cons d front => exact .inr (hhead c hc)
          rw [List.append_assoc digits] at htail
          exact ⟨⟨owner, repo, kind, digits, front ++ '/' :: back, howner, hrepo, hkind, hnumber,
            hvalid⟩, htail⟩
      · cases h
    · cases hpath
  · rintro ⟨link, hchars⟩
    have hstart : githubPrefix.toList <+: url.toList := by
      rw [← hchars]
      exact List.prefix_append _ _
    have hpath : Text.stripPrefix url githubPrefix = some (String.ofList (link.owner ++ '/'
        :: (link.repo ++ '/' :: (link.kind ++ '/' :: (link.number ++ link.rest))))) := by
      rw [Text.stripPrefix, Text.startsWith, if_pos (List.isPrefixOf_iff_prefix.mpr hstart),
        ← hchars, SourceLink.chars, linkChars, List.drop_left]
    have hslash : '/' ∉ link.number := fun hmem => absurd (link.number_valid.2 _ hmem) (by decide)
    obtain ⟨front, pieces, hfront, hbegins⟩ := exists_splitOn_eq_cons '/' link.rest
    have hhead : ∀ c ∈ front.head?, c = '#' ∨ c = '?' := by
      intro c hc
      have hrest : c ∈ link.rest.head? := by
        obtain ⟨back, hback⟩ := hbegins
        rw [← hback]
        cases front with
        | nil => cases hc
        | cons d front => exact hc
      refine (link.rest_valid c hrest).resolve_left ?_
      rintro rfl
      exact (splitOn_eq_cons_iff.mp hfront).1 (List.mem_of_mem_head? hc)
    have hnumbers : (link.number ++ link.rest).splitOn '/' = (link.number ++ front) :: pieces := by
      obtain ⟨hfree, hcases⟩ := splitOn_eq_cons_iff.mp hfront
      refine splitOn_eq_cons_iff.mpr ⟨?_, ?_⟩
      · rw [List.mem_append, not_or]
        exact ⟨hslash, hfree⟩
      · obtain ⟨heq, hnil⟩ | ⟨back, heq, hback⟩ := hcases
        · exact .inl ⟨by rw [heq], hnil⟩
        · exact .inr ⟨back, by rw [heq, List.append_assoc], hback⟩
    have hallowed : isAllowedGithubSourcePath (String.ofList (link.owner ++ '/'
        :: (link.repo ++ '/' :: (link.kind ++ '/' :: (link.number ++ link.rest))))) = true := by
      refine isAllowed_eq_true_iff.mpr ⟨link.owner, link.repo, link.kind, link.number ++ front,
        pieces, ?_, link.owner_valid, link.repo_valid, link.kind_valid, ?_⟩
      · rw [String.toList_ofList, splitOn_append_cons (slash_not_mem_slug link.owner_valid),
          splitOn_append_cons (slash_not_mem_slug link.repo_valid),
          splitOn_append_cons (slash_not_mem_kind link.kind_valid), hnumbers]
      · rw [takeWhile_number link.number_valid hhead]
        exact link.number_valid
    rw [validateGithubSourceUrl, hpath, Fallible.okOr, Fallible.ok_bind, if_pos hallowed]
    rfl

/-! ## Links that open their source only -/

/-- Whitespace, a control character, a quote, or one of `&`, `|`, `<`, `>` and `^`, by code. -/
def isInterpreted (c : Char) : Bool :=
  Text.isWhitespace c || Text.isControl c || [34, 39, 38, 124, 60, 62, 94].contains c.toNat

/-- A step within a path, `.` or `..`. -/
def IsStep (name : List Char) : Prop := name = ['.'] ∨ name = ['.', '.']

/-- The name of an owner or a repository. -/
def IsName (name : List Char) : Prop := '/' ∉ name ∧ name ≠ [] ∧ ¬ IsStep name

/-- The link names an issue or a pull request, with nothing behind its number but a query or
a fragment, and a shell has nothing to read in it. -/
structure OnlySource (url : String) : Prop where
  source : ∃ owner repo kind number rest, url.toList = linkChars owner repo kind number rest
    ∧ IsName owner ∧ IsName repo ∧ IsKind kind ∧ IsNumber number
    ∧ (rest = [] ∨ ∃ tail, rest = '?' :: tail ∨ rest = '#' :: tail)
  chars : ∀ c ∈ url.toList, isInterpreted c = false

theorem isInterpreted_of_isAlphanum {c : Char} (h : c.isAlphanum = true) :
    isInterpreted c = false := by
  have hcode : (48 ≤ c.toNat ∧ c.toNat ≤ 57) ∨ (65 ≤ c.toNat ∧ c.toNat ≤ 90)
      ∨ (97 ≤ c.toNat ∧ c.toNat ≤ 122) := by
    have hclass : c.isAlphanum = ((decide (c.val ≥ 'A'.val ∧ c.val ≤ 'Z'.val)
          || decide (c.val ≥ 'a'.val) && decide (c.val ≤ 'z'.val))
        || decide (c.val ≥ '0'.val) && decide (c.val ≤ '9'.val)) := rfl
    simp only [hclass, Bool.or_eq_true, Bool.and_eq_true, decide_eq_true_eq, ge_iff_le,
      UInt32.le_iff_toNat_le] at h
    have hval : c.val.toNat = c.toNat := rfl
    simp only [hval] at h
    have hA : 'A'.val.toNat = 65 := rfl
    have hZ : 'Z'.val.toNat = 90 := rfl
    have ha : 'a'.val.toNat = 97 := rfl
    have hz : 'z'.val.toNat = 122 := rfl
    have h0 : '0'.val.toNat = 48 := rfl
    have h9 : '9'.val.toNat = 57 := rfl
    omega
  simp only [isInterpreted, Text.isWhitespace, Text.isControl, Bool.or_eq_false_iff,
    Bool.and_eq_false_iff, decide_eq_false_iff_not, beq_eq_false_iff_ne, List.contains_eq_mem,
    List.mem_cons, List.not_mem_nil, or_false]
  omega

theorem isInterpreted_of_mem_slug {value : List Char}
    (h : validGithubSlug (String.ofList value) = true) {c : Char} (hc : c ∈ value) :
    isInterpreted c = false := by
  obtain halnum | rfl | rfl | rfl := (slug_chars h).2 c hc
  · exact isInterpreted_of_isAlphanum halnum
  · decide
  · decide
  · decide

theorem isInterpreted_of_any {l : List Char} (h : l.any isInterpreted = false) :
    ∀ c ∈ l, isInterpreted c = false := fun c hc =>
  Bool.eq_false_iff.mpr (List.any_eq_false.mp h c hc)

theorem isInterpreted_chars_iff (link : SourceLink) :
    (∀ c ∈ link.chars, isInterpreted c = false) ↔ ∀ c ∈ link.rest, isInterpreted c = false := by
  have hbegins := isInterpreted_of_any (l := githubPrefix.toList) (by decide)
  have hslash : isInterpreted '/' = false := by decide
  have hkind : ∀ c ∈ link.kind, isInterpreted c = false := by
    obtain h | h := link.kind_valid <;> rw [h] <;> exact isInterpreted_of_any (by decide)
  have hnumber : ∀ c ∈ link.number, isInterpreted c = false := fun c hc =>
    isInterpreted_of_isAlphanum (by simp [Char.isAlphanum, link.number_valid.2 c hc])
  constructor
  · intro h c hc
    refine h c ?_
    simp only [SourceLink.chars, linkChars, List.mem_append, List.mem_cons, hc, or_true]
  · intro h c hc
    simp only [SourceLink.chars, linkChars, List.mem_append, List.mem_cons] at hc
    obtain hc | hc | rfl | hc | rfl | hc | rfl | hc | hc := hc
    · exact hbegins c hc
    · exact isInterpreted_of_mem_slug link.owner_valid hc
    · exact hslash
    · exact isInterpreted_of_mem_slug link.repo_valid hc
    · exact hslash
    · exact hkind c hc
    · exact hslash
    · exact hnumber c hc
    · exact h c hc

theorem number_append_inj {number number' rest rest' : List Char} (hnumber : IsNumber number)
    (hnumber' : IsNumber number') (hrest : ∀ c ∈ rest.head?, c.isDigit = false)
    (hrest' : ∀ c ∈ rest'.head?, c.isDigit = false)
    (h : number ++ rest = number' ++ rest') : number = number' ∧ rest = rest' := by
  have htake : ∀ {digits tail : List Char}, IsNumber digits →
      (∀ c ∈ tail.head?, c.isDigit = false) → (digits ++ tail).takeWhile Char.isDigit = digits := by
    intro digits tail hdigits htail
    rw [List.takeWhile_append_of_pos hdigits.2]
    cases tail with
    | nil => simp
    | cons c tail =>
        rw [List.takeWhile_cons, htail c rfl, if_neg Bool.false_ne_true, List.append_nil]
  have hsame : number = number' := by
    rw [← htake hnumber hrest, h, htake hnumber' hrest']
  exact ⟨hsame, List.append_cancel_left (hsame ▸ h)⟩

theorem linkChars_inj {link : SourceLink} {owner repo kind number rest : List Char}
    (h : link.chars = linkChars owner repo kind number rest) (howner : '/' ∉ owner)
    (hrepo : '/' ∉ repo) (hkind : IsKind kind) (hnumber : IsNumber number)
    (hrest : ∀ c ∈ rest.head?, c.isDigit = false) :
    link.owner = owner ∧ link.repo = repo ∧ link.rest = rest := by
  have hlinkRest : ∀ c ∈ link.rest.head?, c.isDigit = false := by
    intro c hc
    obtain rfl | rfl | rfl := link.rest_valid c hc <;> decide
  obtain ⟨hownerEq, h⟩ := Codes.terminated_inj (slash_not_mem_slug link.owner_valid) howner
    (List.append_cancel_left h)
  obtain ⟨hrepoEq, h⟩ := Codes.terminated_inj (slash_not_mem_slug link.repo_valid) hrepo h
  obtain ⟨-, h⟩ := Codes.terminated_inj (slash_not_mem_kind link.kind_valid)
    (slash_not_mem_kind hkind) h
  exact ⟨hownerEq, hrepoEq, (number_append_inj link.number_valid hnumber hlinkRest hrest h).2⟩

theorem isName_iff_of_slug {value : List Char} (h : validGithubSlug (String.ofList value) = true) :
    IsName value ↔ ¬ IsStep value :=
  ⟨fun hname => hname.2.2, fun hstep => ⟨slash_not_mem_slug h, (slug_chars h).1, hstep⟩⟩

/-- An accepted link opens its source only, exactly when its owner and repository are no steps,
no further segment follows its number, and nothing behind the number is for a shell. -/
theorem accepted_safe_iff {url : String} (h : validateGithubSourceUrl url = .ok ()) :
    ∃ link : SourceLink, link.chars = url.toList
      ∧ (OnlySource url ↔
        ¬ IsStep link.owner ∧ ¬ IsStep link.repo
          ∧ link.rest.head? ≠ some '/' ∧ ∀ c ∈ link.rest, isInterpreted c = false) := by
  obtain ⟨link, hchars⟩ := accepted_iff.mp h
  refine ⟨link, hchars, ?_⟩
  constructor
  · rintro ⟨⟨owner, repo, kind, number, rest, hsource, howner, hrepo, hkind, hnumber, hrest⟩, hsafe⟩
    have hhead : ∀ c ∈ rest.head?, c.isDigit = false := by
      obtain rfl | ⟨tail, rfl | rfl⟩ := hrest
      · exact nofun
      · exact fun c hc => Option.some.inj hc ▸ (by decide)
      · exact fun c hc => Option.some.inj hc ▸ (by decide)
    obtain ⟨rfl, rfl, rfl⟩ :=
      linkChars_inj (hchars.trans hsource) howner.1 hrepo.1 hkind hnumber hhead
    refine ⟨howner.2.2, hrepo.2.2, ?_, ?_⟩
    · obtain hnil | ⟨tail, hquery | hfragment⟩ := hrest
      · rw [hnil]
        exact nofun
      · rw [hquery, List.head?_cons]
        decide
      · rw [hfragment, List.head?_cons]
        decide
    · rw [← hchars] at hsafe
      exact (isInterpreted_chars_iff link).mp hsafe
  · rintro ⟨howner, hrepo, hsegment, hsafe⟩
    refine ⟨⟨link.owner, link.repo, link.kind, link.number, link.rest, hchars.symm,
      (isName_iff_of_slug link.owner_valid).mpr howner,
      (isName_iff_of_slug link.repo_valid).mpr hrepo, link.kind_valid, link.number_valid, ?_⟩, ?_⟩
    · cases hrest : link.rest with
      | nil => exact .inl rfl
      | cons c tail =>
          have hc := link.rest_valid c (by rw [hrest]; rfl)
          obtain rfl | rfl | rfl := hc
          · rw [hrest] at hsegment
            exact absurd rfl hsegment
          · exact .inr ⟨tail, .inr rfl⟩
          · exact .inr ⟨tail, .inl rfl⟩
    · rw [← hchars]
      exact (isInterpreted_chars_iff link).mpr hsafe

def plainLink : String := "https://github.com/o/r/issues/1"

def shellLink : String := "https://github.com/o/r/issues/1?a&calc"

theorem accepted_safe_iff_plain :
    ∃ link : SourceLink, link.chars = plainLink.toList
      ∧ (OnlySource plainLink ↔
        ¬ IsStep link.owner ∧ ¬ IsStep link.repo
          ∧ link.rest.head? ≠ some '/' ∧ ∀ c ∈ link.rest, isInterpreted c = false) :=
  accepted_safe_iff (by decide)

/-- An accepted link with an `&` behind its number, handed to `cmd /C start` as it is. -/
theorem shell_link_opened :
    openGithubSource .windows shellLink = .ok ("cmd", ["/C", "start", "", shellLink])
      ∧ ¬ OnlySource shellLink := by
  refine ⟨by decide, fun h => ?_⟩
  have hmem : '&' ∈ shellLink.toList := by decide
  have hread : isInterpreted '&' = true := by decide
  rw [h.chars '&' hmem] at hread
  cases hread

end SheaSymphony.App.Links
