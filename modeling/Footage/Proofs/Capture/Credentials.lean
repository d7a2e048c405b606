import Footage.Proofs.Capture.Addresses
import Footage.Session.State

/-!
# Credentials in a URI

A user name ends at the first at sign of the authority, and what is masked ends at the last one.
Where there are several the two disagree, and still neither preparation moves the place where the
other cuts: each settles after one application, and a URI shows the same whether its password was
repaired before it was masked or not. What is shown does not depend on the credentials.
-/

namespace Footage.Capture.Uri

open Footage.Text

set_option autoImplicit false

variable {uri user behind secret host : List Char} {parts : Parts}

structure LoneUser (uri : List Char) (parts : Parts) (user behind : List Char) : Prop where
  of : parts.Of uri
  http : isHttp parts.scheme = true
  authority : parts.authority = user ++ '@' :: behind
  first : '@' ∉ user
  named : user ≠ []
  alone : ':' ∉ user

def Parts.repaired (parts : Parts) (user behind : List Char) : Parts where
  scheme := lowerScheme parts.scheme
  authority := user ++ ':' :: '@' :: behind
  rest := parts.rest

/-- What the mask covers, and the host that stays to be seen. -/
structure Credentials (uri : List Char) (parts : Parts) (secret host : List Char) : Prop where
  of : parts.Of uri
  authority : parts.authority = secret ++ '@' :: host
  last : '@' ∉ host

def Parts.masked (parts : Parts) (host : List Char) : Parts where
  scheme := parts.scheme
  authority := mask ++ '@' :: host
  rest := parts.rest

theorem LoneUser.repair (lone : LoneUser uri parts user behind) :
    repairChars uri = (parts.repaired user behind).join := by
  have kept : ¬(user.isEmpty = true ∨ user.contains ':' = true) := by
    simp [lone.named, lone.alone]
  simp only [repairChars, split_eq_some.mpr lone.of, lone.http, lone.authority,
    cut_first_mark lone.first, if_true, if_neg kept, Parts.repaired]

theorem repair_spares (paired : ∀ parts user behind, ¬LoneUser uri parts user behind) :
    repairChars uri = uri := by
  unfold repairChars
  split
  · rfl
  next parts found =>
    split
    case isFalse => rfl
    case isTrue http =>
      split
      · rfl
      next user behind cut =>
        obtain ⟨authority, first⟩ := cut_first_eq_some cut
        apply if_pos
        apply Decidable.byContradiction
        rw [not_or]
        rintro ⟨named, alone⟩
        apply paired parts user behind
        exact ⟨split_eq_some.mp found, http, authority, first, by simpa using named,
          by simpa using alone⟩

theorem repair_cases (uri : List Char) :
    (∃ parts user behind, LoneUser uri parts user behind ∧
      repairChars uri = (parts.repaired user behind).join) ∨
    (∀ parts user behind, ¬LoneUser uri parts user behind) ∧ repairChars uri = uri := by
  by_cases lone : ∃ parts user behind, LoneUser uri parts user behind
  · obtain ⟨parts, user, behind, lone⟩ := lone
    exact .inl ⟨parts, user, behind, lone, lone.repair⟩
  · have paired : ∀ parts user behind, ¬LoneUser uri parts user behind :=
      fun parts user behind found => lone ⟨parts, user, behind, found⟩
    exact .inr ⟨paired, repair_spares paired⟩

theorem http_lower {scheme : List Char} (http : isHttp scheme = true) :
    ¬schemeMark <:+: lowerScheme scheme ∧
      lowerScheme (lowerScheme scheme) = lowerScheme scheme := by
  simp only [isHttp, Bool.or_eq_true, beq_iff_eq] at http
  rcases http with plain | encrypted
  · rw [plain]
    decide
  · rw [encrypted]
    decide

/-- The blank password moves neither the end of the scheme nor that of the authority. -/
theorem LoneUser.repaired_of (lone : LoneUser uri parts user behind) :
    (parts.repaired user behind).Of (parts.repaired user behind).join := by
  apply lone.of.replace (http_lower lone.http).1
  have whole := lone.of.authority
  rw [lone.authority] at whole
  intro char member
  simp only [List.mem_append, List.mem_cons] at member whole
  rcases member with named | rfl | rfl | later
  · exact whole char (.inl named)
  · rfl
  · rfl
  · exact whole char (.inr (.inr later))

theorem LoneUser.repaired_paired (lone : LoneUser uri parts user behind) (other : Parts)
    (name later : List Char) :
    ¬LoneUser (parts.repaired user behind).join other name later := by
  intro again
  obtain rfl := lone.repaired_of.unique again.of
  have unmarked : '@' ∉ user ++ [':'] := by simp [lone.first]
  have cut : cutFirst '@' (user ++ [':'] ++ '@' :: behind) = some (name, later) := by
    have authority : user ++ ':' :: '@' :: behind = name ++ '@' :: later := again.authority
    rw [List.append_assoc, List.singleton_append, authority]
    exact cut_first_mark again.first later
  rw [cut_first_mark unmarked] at cut
  cases cut
  exact again.alone (by simp)

theorem repair_repair (uri : List Char) : repairChars (repairChars uri) = repairChars uri := by
  rcases repair_cases uri with ⟨parts, user, behind, lone, repaired⟩ | ⟨-, same⟩
  · rw [repaired]
    exact repair_spares lone.repaired_paired
  · rw [same, same]

theorem Credentials.mask (credentials : Credentials uri parts secret host) :
    maskChars uri = (parts.masked host).join := by
  simp only [maskChars, split_eq_some.mpr credentials.of, credentials.authority,
    cut_last_mark secret credentials.last, Parts.masked]

theorem mask_spares (open_address : ∀ parts secret host, ¬Credentials uri parts secret host) :
    maskChars uri = uri := by
  unfold maskChars
  split
  · rfl
  next parts found =>
    split
    · rfl
    next secret host cut =>
      obtain ⟨authority, last⟩ := cut_last_eq_some cut
      exact absurd ⟨split_eq_some.mp found, authority, last⟩ (open_address parts secret host)

theorem Credentials.masked (credentials : Credentials uri parts secret host) :
    Credentials (parts.masked host).join (parts.masked host) Uri.mask host where
  of := by
    apply credentials.of.replace credentials.of.scheme
    have whole := credentials.of.authority
    rw [credentials.authority] at whole
    have plain : ∀ char ∈ Uri.mask, endsAuthority char = false := by
      simp [Uri.mask, endsAuthority]
    intro char member
    rcases List.mem_append.mp member with hidden | shown
    · exact plain char hidden
    · exact whole char (List.mem_append_right secret shown)
  authority := rfl
  last := credentials.last

theorem mask_mask (uri : List Char) : maskChars (maskChars uri) = maskChars uri := by
  by_cases hidden : ∃ parts secret host, Credentials uri parts secret host
  · obtain ⟨parts, secret, host, credentials⟩ := hidden
    rw [credentials.mask, credentials.masked.mask]
    rfl
  · have same : maskChars uri = uri :=
      mask_spares fun parts secret host found => hidden ⟨parts, secret, host, found⟩
    rw [same, same]

/-- The repair leaves the last at sign and the host behind it where they are. -/
theorem LoneUser.credentials (lone : LoneUser uri parts user behind) :
    ∃ more host, Credentials uri parts (user ++ more) host ∧
      Credentials (parts.repaired user behind).join (parts.repaired user behind)
        (user ++ ':' :: more) host := by
  obtain ⟨more, host, same, last⟩ := exists_last_mark (List.mem_cons_self (a := '@') (l := behind))
  refine ⟨more, host, ⟨lone.of, ?_, last⟩, ⟨lone.repaired_of, ?_, last⟩⟩
  · rw [lone.authority, same, List.append_assoc]
  · rw [Parts.repaired, same, List.append_assoc, List.cons_append]

theorem LoneUser.masked_alike (lone : LoneUser uri parts user behind) :
    ∃ masked other : Parts, masked.Of (maskChars (parts.repaired user behind).join) ∧
      other.Of (maskChars uri) ∧ lowerScheme masked.scheme = lowerScheme other.scheme ∧
      masked.authority = other.authority ∧ masked.rest = other.rest := by
  obtain ⟨more, host, before, after⟩ := lone.credentials
  refine ⟨(parts.repaired user behind).masked host, parts.masked host, ?_, ?_, ?_, rfl, rfl⟩
  · rw [after.mask]
    exact after.masked.of
  · rw [before.mask]
    exact before.masked.of
  · exact (http_lower lone.http).2

theorem mask_repair (uri : String) :
    Alike (maskCredentials (repairBlankPassword uri)) (maskCredentials uri) := by
  rcases repair_cases uri.toList with ⟨parts, user, behind, lone, repaired⟩ | ⟨-, same⟩
  · right
    simp only [maskCredentials, repairBlankPassword, repaired, String.toList_ofList]
    exact lone.masked_alike
  · left
    rw [repairBlankPassword, same, String.ofList_toList]

/-- A URI is repaired where an HTTP user stands alone, and nowhere else: a colon goes in before
the first at sign. Neither preparation finds anything to do after itself, and what is shown of a
repaired URI is what is shown of the one before the repair. -/
theorem preparations_settle (uri : String) :
    ((∃ parts user behind, LoneUser uri.toList parts user behind ∧
        (repairBlankPassword uri).toList = (parts.repaired user behind).join) ∨
      (∀ parts user behind, ¬LoneUser uri.toList parts user behind) ∧
        repairBlankPassword uri = uri) ∧
    repairBlankPassword (repairBlankPassword uri) = repairBlankPassword uri ∧
    maskCredentials (maskCredentials uri) = maskCredentials uri ∧
    Alike (maskCredentials (repairBlankPassword uri)) (maskCredentials uri) := by
  refine ⟨?_, ?_, ?_, mask_repair uri⟩
  · rcases repair_cases uri.toList with ⟨parts, user, behind, lone, repaired⟩ | ⟨paired, same⟩
    · left
      refine ⟨parts, user, behind, lone, ?_⟩
      rw [repairBlankPassword, String.toList_ofList, repaired]
    · right
      refine ⟨paired, ?_⟩
      rw [repairBlankPassword, same, String.ofList_toList]
  · simp only [repairBlankPassword, String.toList_ofList, repair_repair]
  · simp only [maskCredentials, String.toList_ofList, mask_mask]

theorem LoneUser.longer (lone : LoneUser uri parts user behind) :
    (parts.repaired user behind).join ≠ uri := by
  intro same
  have lengths := congrArg List.length (same.trans lone.of.text)
  simp only [Parts.join, Parts.repaired, lowerScheme, lone.authority, List.length_append,
    List.length_map, List.length_cons] at lengths
  omega

/-- Credentials have a user alone in front when they begin with a user and every colon in them
stands behind an at sign. -/
theorem Credentials.lone_user (credentials : Credentials uri parts secret host)
    (http : isHttp parts.scheme = true) (named : secret ≠ []) (led : secret.head? ≠ some '@')
    (late : ∀ name password, secret = name ++ ':' :: password → '@' ∈ name) :
    ∃ user behind, LoneUser uri parts user behind := by
  have marked : '@' ∈ parts.authority := by simp [credentials.authority]
  obtain ⟨user, behind, cut, first⟩ := List.eq_append_cons_of_mem marked
  refine ⟨user, behind, credentials.of, http, cut, first, ?_, ?_⟩
  · rintro rfl
    obtain ⟨char, rest, rfl⟩ := List.exists_cons_of_ne_nil named
    rw [credentials.authority] at cut
    exact led (congrArg some (List.cons.inj cut).1)
  · intro paired
    obtain ⟨name, password, rfl⟩ := List.append_of_mem paired
    obtain ⟨more, whole⟩ := unmarked_front first (cut.symm.trans credentials.authority)
    have behind_at : '@' ∈ name := late name (password ++ more) (by simp [← whole])
    exact first (List.mem_append_left _ behind_at)

theorem LoneUser.late (lone : LoneUser uri parts user behind)
    (credentials : Credentials uri parts secret host) {name password : List Char}
    (paired : secret = name ++ ':' :: password) : '@' ∈ name := by
  by_cases member : '@' ∈ name
  · exact member
  have unmarked : '@' ∉ name ++ [':'] := by simp [member]
  have same : name ++ [':'] ++ (password ++ '@' :: host) = user ++ '@' :: behind := by
    rw [← lone.authority, credentials.authority, paired]
    simp
  have inside : name ++ [':'] <+: user := unmarked_front unmarked same
  exact absurd (inside.subset (by simp)) lone.alone

/-- A URI is changed exactly if it asks for HTTP with credentials that begin with a user and have
no colon in front of their first at sign; a password may have any at signs in it. -/
theorem repair_changes_iff (uri : String) :
    repairBlankPassword uri ≠ uri ↔
      ∃ parts secret host, Credentials uri.toList parts secret host ∧
        (maskCredentials uri).toList = (parts.masked host).join ∧
        isHttp parts.scheme = true ∧ secret ≠ [] ∧ secret.head? ≠ some '@' ∧
        ∀ name password, secret = name ++ ':' :: password → '@' ∈ name := by
  constructor
  · intro changed
    rcases repair_cases uri.toList with ⟨parts, user, behind, lone, -⟩ | ⟨-, same⟩
    · obtain ⟨more, host, credentials, -⟩ := lone.credentials
      obtain ⟨first, rest, rfl⟩ := List.exists_cons_of_ne_nil lone.named
      refine ⟨parts, first :: rest ++ more, host, credentials, ?_, lone.http, by simp, ?_, ?_⟩
      · rw [maskCredentials, String.toList_ofList, credentials.mask]
      · intro led
        have same : first = '@' := Option.some.inj led
        exact lone.first (by simp [same])
      · exact fun _ _ paired => lone.late credentials paired
    · exact absurd (by rw [repairBlankPassword, same, String.ofList_toList]) changed
  · rintro ⟨parts, secret, host, credentials, -, http, named, led, late⟩ same
    obtain ⟨user, behind, lone⟩ := credentials.lone_user http named led late
    apply lone.longer
    rw [← lone.repair, ← String.toList_ofList (l := repairChars _)]
    exact congrArg String.toList same

/-- A user name with an at sign in it is given a blank password although it has one. -/
theorem repair_splits_pair :
    ¬ ∀ (uri : String) (parts : Parts) (secret host : List Char),
      Credentials uri.toList parts secret host → repairBlankPassword uri ≠ uri → ':' ∉ secret := by
  intro untouched
  let parts : Parts := ⟨"http".toList, "me@home:pw@cam".toList, "/".toList⟩
  have of : parts.Of "http://me@home:pw@cam/".toList :=
    ⟨by decide, by decide, by simp [parts, endsAuthority], by simp [parts, endsAuthority]⟩
  have credentials :
      Credentials "http://me@home:pw@cam/".toList parts "me@home:pw".toList "cam".toList :=
    ⟨of, by decide, by decide⟩
  exact untouched _ _ _ _ credentials (by decide) (by decide)

def addressed (scheme secret host rest : String) : String :=
  scheme ++ "://" ++ secret ++ "@" ++ host ++ rest

/-- None of the characters ends an authority. -/
def Whole (text : String) : Prop := ∀ char ∈ text.toList, endsAuthority char = false

instance (text : String) : Decidable (Whole text) :=
  List.decidableBAll (fun char => endsAuthority char = false) text.toList

theorem addressed_credentials {scheme secret host rest : String}
    (unmarked : ¬schemeMark <:+: scheme.toList) (secret_whole : Whole secret)
    (host_whole : Whole host) (last : '@' ∉ host.toList)
    (apart : ∀ char ∈ rest.toList.head?, endsAuthority char = true) :
    Credentials (addressed scheme secret host rest).toList
      ⟨scheme.toList, secret.toList ++ '@' :: host.toList, rest.toList⟩
      secret.toList host.toList where
  of := {
    text := by simp [addressed, Parts.join, schemeMark]
    scheme := unmarked
    authority := by
      intro char member
      simp only [List.mem_append, List.mem_cons] at member
      rcases member with inside | rfl | inside
      · exact secret_whole char inside
      · rfl
      · exact host_whole char inside
    rest := apart }
  authority := rfl
  last := last

/-- Whatever the credentials are, the same is shown, and also after they were repaired. -/
theorem credentials_hidden {H κ : Type} (session : Session H κ) (options : StreamOptions)
    (scheme one other host rest : String) (unmarked : ¬schemeMark <:+: scheme.toList)
    (one_whole : Whole one) (other_whole : Whole other) (host_whole : Whole host)
    (last : '@' ∉ host.toList) (apart : ∀ char ∈ rest.toList.head?, endsAuthority char = true) :
    maskCredentials (addressed scheme one host rest) =
        maskCredentials (addressed scheme other host rest) ∧
      Alike (session.openRequest (addressed scheme one host rest) options).maskedUri
        (session.openRequest (addressed scheme other host rest) options).maskedUri := by
  have same : maskCredentials (addressed scheme one host rest) =
      maskCredentials (addressed scheme other host rest) := by
    rw [maskCredentials, maskCredentials,
      (addressed_credentials unmarked one_whole host_whole last apart).mask,
      (addressed_credentials unmarked other_whole host_whole last apart).mask]
    rfl
  refine ⟨same, ?_⟩
  have unrepaired := mask_repair (addressed scheme one host rest)
  rw [same] at unrepaired
  exact unrepaired.trans (mask_repair (addressed scheme other host rest)).symm

theorem credentials_hidden_gate :
    let gate : Session Unit Unit := {
      location := "gate", recordDir := "rec/gate", storageDir := "store", capture := {}
      encoder := {}, tracker := .new "gate" }
    let uri secret := addressed "HTTP" secret "gate.local:8080" "/live?as=me@home"
    ¬schemeMark <:+: "HTTP".toList ∧ Whole "guard" ∧ Whole "me@home:p@ss" ∧
      Whole "gate.local:8080" ∧ '@' ∉ "gate.local:8080".toList ∧
      (∀ char ∈ "/live?as=me@home".toList.head?, endsAuthority char = true) ∧
      maskCredentials (uri "guard") = maskCredentials (uri "me@home:p@ss") ∧
      Alike (gate.openRequest (uri "guard") {}).maskedUri
        (gate.openRequest (uri "me@home:p@ss") {}).maskedUri := by
  intro gate uri
  have unmarked : ¬schemeMark <:+: "HTTP".toList := by decide
  have guard : Whole "guard" := by decide
  have other : Whole "me@home:p@ss" := by decide
  have host : Whole "gate.local:8080" := by decide
  have last : '@' ∉ "gate.local:8080".toList := by decide
  have apart : ∀ char ∈ "/live?as=me@home".toList.head?, endsAuthority char = true := by
    simp [endsAuthority]
  exact ⟨unmarked, guard, other, host, last, apart,
    credentials_hidden gate {} "HTTP" "guard" "me@home:p@ss" "gate.local:8080" "/live?as=me@home"
      unmarked guard other host last apart⟩

end Footage.Capture.Uri
