import EdgePolicy.Policy.Category

/-
Tags tell categories and domains apart.

The labels of two categories differ in their first two letters, so no tag begins with the label of
another category.  Hence a tag has one category and one domain (`tag_injective`), belongs to that
category alone (`ownsTag_unique`), and reading it back finds them (`parseTag?_tag`).  All ways in
which tags are looked at agree (`tag_identifies`).
-/

set_option autoImplicit false
set_option relaxedAutoImplicit false

namespace EdgePolicy.Category

def letters : Category → List Char
  | blacklist => ['b', 'l', 'a', 'c', 'k', '_', 'i', 'p']
  | whitelist => ['w', 'h', 'i', 't', 'e', '_', 'i', 'p']
  | country => ['c', 'o', 'u', 'n', 't', 'r', 'y']
  | knownBot => ['k', 'n', 'o', 'w', 'n', '_', 'b', 'o', 't']
  | verifiedBot => ['v', 'e', 'r', 'i', 'f', 'i', 'e', 'd', '_', 'b', 'o', 't']
  | custom .header => ['h', 'e', 'a', 'd', 'e', 'r']
  | custom .fullUri => ['f', 'u', 'l', 'l', '_', 'u', 'r', 'i']
  | custom .userAgent => ['u', 's', 'e', 'r', '_', 'a', 'g', 'e', 'n', 't']
  | cache => ['c', 'a', 'c', 'h', 'e']
  | ddosOverride => ['d', 'e', 'f', 'a', 'u', 'l', 't', '_', 'r', 'u', 'l', 'e']

private theorem label_letters (category : Category) : category.label.toList = category.letters := by
  cases category with
  | custom key => cases key <;> exact String.toList_ofList
  | _ => exact String.toList_ofList

private theorem letters_initials {first second : Category}
    (same : first.letters.take 2 = second.letters.take 2) : first = second := by
  rcases first with _ | _ | _ | _ | _ | (_ | _ | _) | _ | _ <;>
    rcases second with _ | _ | _ | _ | _ | (_ | _ | _) | _ | _ <;>
    first | rfl | exact absurd same (by decide)

private theorem two_le_letters (category : Category) : 2 ≤ category.letters.length := by
  rcases category with _ | _ | _ | _ | _ | (_ | _ | _) | _ | _ <;> decide

variable {category other : Category} {domain tag : String}

private theorem tag_letters (labelled : category ≠ ddosOverride) (domain : String) :
    (category.tag domain).toList = category.letters ++ '_' :: domain.toList := by
  have written : category.tag domain = category.label ++ "_" ++ domain := by
    cases category with
    | ddosOverride => exact absurd rfl labelled
    | _ => rfl
  have underscore : "_".toList = ['_'] := String.toList_ofList
  rw [written, String.toList_append, String.toList_append, label_letters, underscore,
    List.append_assoc]
  rfl

private theorem tag_initials (category : Category) (domain : String) :
    (category.tag domain).toList.take 2 = category.letters.take 2 := by
  by_cases labelled : category = ddosOverride
  · subst labelled
    exact congrArg (List.take 2) (label_letters ddosOverride)
  · rw [tag_letters labelled, List.take_append_of_le_length (two_le_letters category)]

/-- A tag belongs to one category, and to one domain unless its category has only one tag. -/
theorem tag_injective (labelled : category ≠ ddosOverride) {domain' : String}
    (same : category.tag domain = other.tag domain') : category = other ∧ domain = domain' := by
  have initials : category.letters.take 2 = other.letters.take 2 := by
    rw [← tag_initials category domain, same, tag_initials]
  obtain rfl := letters_initials initials
  refine ⟨rfl, ?_⟩
  have letters := congrArg String.toList same
  rw [tag_letters labelled, tag_letters labelled] at letters
  exact String.toList_inj.mp (List.cons.inj (List.append_cancel_left letters)).2

private theorem afterLabel?_eq_some :
    category.afterLabel? tag = some domain ↔
      tag.toList = category.letters ++ '_' :: domain.toList := by
  unfold afterLabel?
  rw [label_letters]
  dsimp only
  constructor
  · intro found
    split at found
    · next begins =>
      obtain ⟨rest, shape⟩ := List.isPrefixOf_iff_prefix.mp begins
      rw [← shape, List.drop_left] at found
      obtain rfl := Option.some.inj found
      rw [← shape, String.toList_ofList]
      simp
    · nomatch found
  · intro shape
    have shape' : tag.toList = (category.letters ++ ['_']) ++ domain.toList := by simp [shape]
    have begins : (category.letters ++ ['_']).isPrefixOf tag.toList = true :=
      List.isPrefixOf_iff_prefix.mpr ⟨domain.toList, shape'.symm⟩
    rw [if_pos begins, shape', List.drop_left, String.ofList_toList]

private theorem afterLabel?_tag (labelled : category ≠ ddosOverride) (domain : String) :
    category.afterLabel? (category.tag domain) = some domain :=
  afterLabel?_eq_some.mpr (tag_letters labelled domain)

private theorem afterLabel?_other (different : other ≠ category) (domain : String) :
    other.afterLabel? (category.tag domain) = none := by
  cases found : other.afterLabel? (category.tag domain) with
  | none => rfl
  | some rest =>
    have initials : other.letters.take 2 = category.letters.take 2 := by
      rw [← tag_initials category domain, afterLabel?_eq_some.mp found,
        List.take_append_of_le_length (two_le_letters other)]
    exact absurd (letters_initials initials) different

private theorem ownsTag_labelled (labelled : category ≠ ddosOverride) (tag : String) :
    category.ownsTag tag = (category.afterLabel? tag).isSome := by
  cases category with
  | ddosOverride => exact absurd rfl labelled
  | _ => rfl

private theorem initials_of_ownsTag (owned : category.ownsTag tag = true) :
    tag.toList.take 2 = category.letters.take 2 := by
  by_cases labelled : category = ddosOverride
  · subst labelled
    have same : tag = overrideTag := of_decide_eq_true owned
    rw [same]
    exact congrArg (List.take 2) (label_letters ddosOverride)
  · rw [ownsTag_labelled labelled] at owned
    obtain ⟨rest, begins⟩ := Option.isSome_iff_exists.mp owned
    rw [afterLabel?_eq_some.mp begins, List.take_append_of_le_length (two_le_letters category)]

/-- A tag belongs to one category at most. -/
theorem ownsTag_unique (first : category.ownsTag tag = true) (second : other.ownsTag tag = true) :
    category = other :=
  letters_initials ((initials_of_ownsTag first).symm.trans (initials_of_ownsTag second))

theorem ownsTag_self (category : Category) (domain : String) :
    category.ownsTag (category.tag domain) = true := by
  by_cases labelled : category = ddosOverride
  · subst labelled
    exact beq_self_eq_true overrideTag
  · rw [ownsTag_labelled labelled, afterLabel?_tag labelled]
    rfl

private theorem mem_labelled (labelled : category ≠ ddosOverride) :
    category ∈ Category.labelled := by
  rcases category with _ | _ | _ | _ | _ | (_ | _ | _) | _ | _ <;>
    first | decide | exact absurd rfl labelled

/-- A tag reads back as its category and its domain. -/
theorem parseTag?_tag (labelled : category ≠ ddosOverride) (named : domain ≠ "") :
    parseTag? (category.tag domain) = some (category, domain) := by
  have other : category.tag domain ≠ overrideTag := by
    intro same
    have same' : category.tag domain = ddosOverride.tag domain := same
    exact labelled (tag_injective labelled same').1
  obtain ⟨front, back, shape, absent⟩ := List.eq_append_cons_of_mem (mem_labelled labelled)
  unfold parseTag?
  rw [if_neg other, List.findSome?_eq_some_iff]
  refine ⟨front, category, back, shape, ?_, fun earlier member => ?_⟩
  · have kept : domain.isEmpty = false := by simpa using named
    simp only [afterLabel?_tag labelled domain, kept, Bool.false_eq_true, if_false]
  · have different : earlier ≠ category := fun same => absent (same ▸ member)
    simp only [afterLabel?_other different domain]

theorem tag_of_parseTag? (read : parseTag? tag = some (category, domain)) :
    category.tag domain = tag := by
  unfold parseTag? at read
  split at read
  · next same =>
    obtain ⟨rfl, rfl⟩ := Prod.mk.inj (Option.some.inj read)
    exact same.symm
  · obtain ⟨found, member, read⟩ := List.exists_of_findSome?_eq_some read
    split at read
    · next rest begins =>
      split at read
      · nomatch read
      · obtain ⟨rfl, rfl⟩ := Prod.mk.inj (Option.some.inj read)
        have labelled : found ≠ ddosOverride := by
          rintro rfl
          exact absurd member (by decide)
        apply String.toList_inj.mp
        rw [tag_letters labelled, afterLabel?_eq_some.mp begins]
    · nomatch read

/-- A tag is a faithful name of a category and a domain: it is read back as them, what is read from
a text has the text as its tag and owns it, no text has two owners, and no tag is shared but the one
of the override. -/
theorem tag_identifies :
    (∀ (category : Category) (domain : String), category ≠ ddosOverride → domain ≠ "" →
      parseTag? (category.tag domain) = some (category, domain)) ∧
    (∀ tag category domain, parseTag? tag = some (category, domain) →
      category.tag domain = tag ∧ category.ownsTag tag = true) ∧
    (∀ (tag : String) (category other : Category),
      category.ownsTag tag = true → other.ownsTag tag = true → category = other) ∧
    ∀ (category other : Category) (domain domain' : String),
      category.tag domain = other.tag domain' →
        (category, domain) = (other, domain') ∨ category = ddosOverride ∧ other = ddosOverride := by
  refine ⟨fun category domain => parseTag?_tag, fun tag category domain read => ?_,
    fun tag category other => ownsTag_unique, fun category other domain domain' same => ?_⟩
  · have tagged := tag_of_parseTag? read
    exact ⟨tagged, tagged ▸ ownsTag_self category domain⟩
  · obtain rfl : category = other :=
      ownsTag_unique (ownsTag_self category domain) (same ▸ ownsTag_self other domain')
    by_cases labelled : category = ddosOverride
    · exact .inr ⟨labelled, labelled⟩
    · obtain ⟨-, rfl⟩ := tag_injective labelled same
      exact .inl rfl

/-- A domain may look like the tag of another category, and a label may stand in front of an empty
domain, which has an owner although it is not read back. -/
theorem tag_identifies_sample :
    (custom .userAgent ≠ ddosOverride ∧ "black_ip_a.io" ≠ "" ∧
      parseTag? ((custom .userAgent).tag "black_ip_a.io") =
        some (custom .userAgent, "black_ip_a.io")) ∧
    (parseTag? "white_ip_cache_b.io" = some (whitelist, "cache_b.io") ∧
      whitelist.tag "cache_b.io" = "white_ip_cache_b.io" ∧
      whitelist.ownsTag "white_ip_cache_b.io" = true) ∧
    (parseTag? "country_" = none ∧ country.ownsTag "country_" = true ∧ country = country) ∧
    ddosOverride.tag "a.io" = ddosOverride.tag "b.io" ∧
      ((ddosOverride, "a.io") = (ddosOverride, "b.io") ∨
        ddosOverride = ddosOverride ∧ ddosOverride = ddosOverride) := by
  obtain ⟨reads, writes, owns, shared⟩ := tag_identifies
  have read : parseTag? "white_ip_cache_b.io" = some (whitelist, "cache_b.io") := by
    decide +kernel
  have owned : country.ownsTag "country_" = true := by decide +kernel
  exact ⟨⟨by decide, by decide, reads _ _ (by decide) (by decide)⟩, ⟨read, writes _ _ _ read⟩,
    ⟨by decide +kernel, owned, owns _ _ _ owned owned⟩, rfl, shared _ _ _ _ rfl⟩

end EdgePolicy.Category
