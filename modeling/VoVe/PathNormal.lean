import VoVe.PosixPath

set_option autoImplicit false

namespace VoVe.PathNormal
open ByteCodec AsciiText PosixPath

section Parents
variable {p q : Path}

lemma namesOf_rdropWhile (text : Bytes):
 namesOf (text.rdropWhile (·=slash))=namesOf text:=by
 induction text using List.reverseRecOn with
 | nil=>rfl
 | append_singleton front last ih=>
  by_cases hlast:last=slash
  · subst hlast
    rw [rdropWhile_slash,ih,namesOf_append_slash,namesOf_nil,List.append_nil]
  · rw [List.rdropWhile_concat_neg _ _ _ (by simpa using hlast)]

lemma namesOf_slash : namesOf [slash]=[]:=by
 rw [←List.nil_append [slash],namesOf_append_slash,namesOf_nil,List.append_nil]

lemma head?_rdropWhile {text : Bytes} (h:text.rdropWhile (·=slash)≠[]):
 (text.rdropWhile (·=slash)).head?=text.head?:=by
 obtain ⟨rest,hrest⟩ := List.rdropWhile_prefix (p := (·=slash)) (l := text)
 obtain ⟨first,others,hstripped⟩:=List.exists_cons_of_ne_nil h
 rw [hstripped] at hrest ⊢
 rw [←hrest]
 rfl

lemma components_parentPath (hname:p.filename.native≠[]):
 p.components={ root:=p.parentPath.components.root
                names:=p.parentPath.components.names++[p.filename.native]
                trailing:=false }:=by
 obtain ⟨native⟩:=p
 obtain hleaf | ⟨before,leaf,rfl,hleaf⟩:=last_slash native
 · rw [filename_of_leaf hleaf] at hname ⊢
   have hlast:native.getLast?≠some slash:=fun h=>hleaf (List.mem_of_getLast? h)
   have hhead:native.head?≠some slash:=fun h=>hleaf (List.mem_of_head? h)
   have hparent:(PosixPath.Path.mk native).parentPath = ⟨[]⟩:=by
    simp [Path.parentPath,Path.components,namesOf_leaf hname hleaf,hlast,hhead,
     filename_of_leaf hleaf]
   rw [hparent]
   simp [Path.components,namesOf_leaf hname hleaf,hlast,hhead]
 · rw [filename_of_slash before hleaf] at hname ⊢
   have hparent:(PosixPath.Path.mk (before++slash::leaf)).parentPath=
     if before.rdropWhile (·=slash)=[] then
      ⟨if (before++[slash]).head?=some slash then [slash] else []⟩
     else ⟨before.rdropWhile (·=slash)⟩:=by
    simp only [Path.parentPath,components_slash_leaf before hname hleaf,
     filename_of_slash before hleaf,take_slash_leaf,rdropWhile_slash]
    simp
   rw [components_slash_leaf before hname hleaf,hparent]
   have hnames:=namesOf_rdropWhile before
   split
   · next hnone =>
     rw [hnone,namesOf_nil] at hnames
     obtain hempty | hslash:=head?_of_no_names before hnames.symm
     · simp [hempty,Path.components,namesOf_slash]
     · obtain ⟨rest,rfl⟩:=List.head?_eq_some_iff.mp hslash
       simp [Path.components,←hnames,namesOf_slash]
   · next hsome =>
     have hhead:=head?_rdropWhile hsome
     obtain ⟨first,rest,rfl⟩ : ∃ first rest,before=first::rest:=by
      apply List.exists_cons_of_ne_nil
      intro hempty
      simp [hempty] at hsome
     simp [Path.components,hnames,hhead]

lemma isAbsolute_parentPath (hname:p.filename.native≠[]):
 p.parentPath.isAbsolute=p.isAbsolute:=by
 rw [Path.isAbsolute,Path.isAbsolute,components_parentPath hname]

lemma same_parents {leaf : Bytes} (hne:leaf≠[]) (hslash:slash∉leaf):
 (p.parentPath / ⟨leaf⟩).parentPath.components.root=p.parentPath.components.root ∧
  (p.parentPath / ⟨leaf⟩).parentPath.components.names=p.parentPath.components.names:=by
 have hfilename:(p.parentPath / ⟨leaf⟩).filename.native=leaf:=by
  rw [filename_leaf _ hslash]
 have hparent:(p.parentPath / ⟨leaf⟩).components=_:=
  components_parentPath (by rw [hfilename]; exact hne)
 rw [components_leaf _ hne hslash,hfilename,Components.mk.injEq] at hparent
 exact ⟨hparent.1.symm,(List.append_cancel_right hparent.2.1).symm⟩

lemma intercalate_concat {names : List Bytes} (hne:names≠[]) (name : Bytes):
 [slash].intercalate (names++[name])=[slash].intercalate names++slash::name:=by
 induction names with
 | nil=>exact absurd rfl hne
 | cons first rest ih=>
  cases rest with
  | nil=>simp [List.intercalate_cons_cons,List.intercalate_singleton]
  | cons second others=>
   rw [List.cons_append,List.cons_append,List.intercalate_cons_cons,
    ← List.cons_append,ih (by simp),List.intercalate_cons_cons]
   simp

lemma filename_lexicallyNormal (habsolute:p.isAbsolute=true)
 (hname:p.filename.native≠[]) (hdot:p.filename.native≠[dot])
 (hdotDot:p.filename.native≠dotDot) : p.lexicallyNormal.filename=p.filename:=by
 have hcomponents:=components_parentPath hname
 have hslash:=filename_no_slash p
 have hroot:p.parentPath.components.root=true:=by
  rw [←Path.isAbsolute,isAbsolute_parentPath hname,habsolute]
 have hnonempty:p.isEmpty=false:=by
  rw [isEmpty_components,hcomponents]
  simp
 rw [Path.lexicallyNormal,hnonempty,hcomponents,hroot]
 simp only [Bool.false_eq_true,if_false,List.foldl_append,List.foldl_cons,List.foldl_nil]
 generalize hbefore : p.parentPath.components.names.foldl (Path.normalStep true) ([],false)=
  before
 have hstep:Path.normalStep true before p.filename.native=
   (p.filename.native::before.1,false):=by
  simp [Path.normalStep,hdot,hdotDot]
 rw [hstep]
 simp only [reduceCtorEq,false_and,if_false,Path.textOf,List.reverse_cons]
 by_cases hnone:before.1.reverse=[]
 · rw [hnone]
   simpa [List.intercalate_singleton] using filename_of_slash [] hslash
 · rw [intercalate_concat hnone]
   simp
   exact filename_of_slash (slash::[slash].intercalate before.1.reverse) hslash

end Parents

section Normal
variable {p q : Path}

lemma mem_namesOf {native name : Bytes} (h:name∈namesOf native) : name≠[] ∧ slash∉name:=by
 obtain hleaf | ⟨before,leaf,rfl,hleaf⟩:=last_slash native
 · by_cases hempty:native=[]
   · rw [hempty,namesOf_nil] at h
     cases h
   · rw [namesOf_leaf hempty hleaf,List.mem_singleton] at h
     exact h ▸ ⟨hempty,hleaf⟩
 · rw [namesOf_append_slash,List.mem_append] at h
   cases h with
   | inl hbefore=>exact mem_namesOf hbefore
   | inr hlast=>
    by_cases hempty:leaf=[]
    · rw [hempty,namesOf_nil] at hlast
      cases hlast
    · rw [namesOf_leaf hempty hleaf,List.mem_singleton] at hlast
      exact hlast ▸ ⟨hempty,hleaf⟩
termination_by native.length
decreasing_by
 subst_vars
 simp only [List.length_append,List.length_cons]
 omega

lemma components_of_leaf {leaf : Bytes} (hne:leaf≠[]) (hslash:slash∉leaf):
 (PosixPath.Path.mk leaf).components = ⟨false,[leaf],false⟩:=by
 have hlast:leaf.getLast?≠some slash:=fun h=>hslash (List.mem_of_getLast? h)
 have hhead:leaf.head?≠some slash:=fun h=>hslash (List.mem_of_head? h)
 simp [Path.components,namesOf_leaf hne hslash,hlast,hhead]

/-- Neither the name of the directory itself nor that of its parent. -/
def PlainName (name : Bytes) : Prop := name≠[dot] ∧ name≠dotDot

lemma normalStep_plain (root : Bool) {name : Bytes} (h:PlainName name)
 (before : List Bytes × Bool) : Path.normalStep root before name=(name::before.1,false):=by
 simp [Path.normalStep,h.1,h.2]

lemma foldl_normalStep (root : Bool) {names : List Bytes} (h:∀name∈names,PlainName name)
 (before : List Bytes):
 names.foldl (Path.normalStep root) (before,false)=(names.reverse++before,false):=by
 induction names generalizing before with
 | nil=>rfl
 | cons name rest ih=>
  rw [List.foldl_cons,normalStep_plain root (h name List.mem_cons_self),
   ih fun other hother=>h other (List.mem_cons_of_mem name hother)]
  simp

lemma lexicallyNormal_plain (hnonempty:p.isEmpty=false)
 (h:∀name∈p.components.names,PlainName name):
 p.lexicallyNormal = ⟨Path.textOf p.components⟩:=by
 have hlast:p.components.names.reverse.head?≠some dotDot:=by
  intro hhead
  exact (h dotDot (List.mem_reverse.mp (List.mem_of_head? hhead))).2 rfl
 have htrailing:p.components.trailing=true → p.components.names≠[]:=by
  simp only [Path.components,decide_eq_true_eq]
  exact And.left
 have hany:¬(p.components.names=[] ∧ p.components.root=false):=by
  intro hnone
  rw [isEmpty_components,hnone.1,hnone.2] at hnonempty
  cases hnonempty
 rw [Path.lexicallyNormal,hnonempty]
 simp only [Bool.false_eq_true,if_false,foldl_normalStep _ h,List.append_nil,
  List.reverse_eq_nil_iff,List.reverse_reverse,Bool.not_eq_eq_eq_not,Bool.not_true,hany,hlast,
  ne_eq,not_false_eq_true,and_true]
 cases hslash:p.components.trailing with
 | false=>simp [Path.textOf,hslash]
 | true=>simp [Path.textOf,hslash,htrailing hslash]

lemma intercalate_append {upper lower : List Bytes} (hupper:upper≠[]) (hlower:lower≠[]):
 [slash].intercalate (upper++lower)=
  [slash].intercalate upper++slash::[slash].intercalate lower:=by
 induction lower using List.reverseRecOn with
 | nil=>exact absurd rfl hlower
 | append_singleton front name ih=>
  by_cases hfront:front=[]
  · subst hfront
    simpa using intercalate_concat hupper name
  · have hboth:upper++front≠[]:=by simp [hupper]
    rw [←List.append_assoc,intercalate_concat hboth,ih hfront,intercalate_concat hfront]
    simp

lemma namesOf_intercalate {names : List Bytes} (h:∀name∈names,name≠[] ∧ slash∉name):
 namesOf ([slash].intercalate names)=names:=by
 induction names using List.reverseRecOn with
 | nil=>simp
 | append_singleton front name ih=>
  have hname:=h name (by simp)
  by_cases hfront:front=[]
  · rw [hfront,List.nil_append,List.intercalate_singleton,namesOf_leaf hname.1 hname.2]
  · rw [intercalate_concat hfront,namesOf_append_slash,namesOf_leaf hname.1 hname.2,
     ih fun other hother=>h other (List.mem_append_left _ hother)]

lemma intercalate_ends {names : List Bytes} (hne:names≠[])
 (h:∀name∈names,name≠[] ∧ slash∉name):
 ∃ first last,([slash].intercalate names).head?=some first ∧
  ([slash].intercalate names).getLast?=some last ∧ first≠slash ∧ last≠slash:=by
 induction names using List.reverseRecOn with
 | nil=>exact absurd rfl hne
 | append_singleton front name ih=>
  obtain ⟨hname,hslash⟩:=h name (by simp)
  obtain ⟨before,last,rfl⟩:=(List.eq_nil_or_concat name).resolve_left hname
  have hlast:last≠slash:=fun heq=>hslash (by simp [heq])
  by_cases hfront:front=[]
  · subst hfront
    cases before with
    | nil=>exact ⟨last,last,by simp,by simp,hlast,hlast⟩
    | cons first rest=>
     have hfirst:first≠slash:=fun heq=>hslash (by simp [heq])
     exact ⟨first,last,by simp,by simp [List.getLast?_cons],hfirst,hlast⟩
  · obtain ⟨first,-,hhead,-,hfirst,-⟩:=ih hfront fun other hother =>
     h other (List.mem_append_left _ hother)
    rw [intercalate_concat hfront]
    refine ⟨first,last,by simp [hhead],?_,hfirst,hlast⟩
    rw [getLast?_slash_leaf _ hname]
    simp

lemma components_textOf {c : Components} (htrailing:c.trailing=true → c.names≠[])
 (h:∀name∈c.names,name≠[] ∧ slash∉name):
 (PosixPath.Path.mk (Path.textOf c)).components=c:=by
 obtain ⟨root,names,trailing⟩:=c
 have hnames:=namesOf_intercalate h
 have hroot (text : Bytes) : namesOf (slash::text)=namesOf text:=by
  rw [←List.nil_append (slash::text),namesOf_append_slash,namesOf_nil,List.nil_append]
 have hend (text : Bytes) : namesOf (text++[slash])=namesOf text:=by
  rw [namesOf_append_slash,namesOf_nil,List.append_nil]
 by_cases hne:names=[]
 · subst hne
   have hnone:trailing=false:=by
    rw [←Bool.not_eq_true]
    exact fun htrue=>htrailing htrue rfl
   subst hnone
   cases root with
   | false=>simp [Path.textOf,Path.components]
   | true=>simp [Path.textOf,Path.components,namesOf_slash]
 · obtain ⟨first,last,hfirst,hlast,hf,hl⟩:=intercalate_ends hne h
   cases root with
   | false=>
    cases trailing with
    | false=>simp [Path.textOf,Path.components,hnames,hfirst,hlast,hf,hl]
    | true=>simp [Path.textOf,Path.components,hnames,hend,hfirst,hne,hf]
   | true=>
    cases trailing with
    | false=>simp [Path.textOf,Path.components,hnames,hroot,List.getLast?_cons,hlast,hl]
    | true=>
     simp [Path.textOf,Path.components,hnames,hroot,hend,hne,List.getLast?_cons,
      List.getLast?_append]

lemma same_lexicallyNormal_plain (hnonempty:p.isEmpty=false)
 (h:∀name∈p.components.names,PlainName name) : p.same p.lexicallyNormal=true:=by
 have htrailing:p.components.trailing=true → p.components.names≠[]:=by
  simp only [Path.components,decide_eq_true_eq]
  exact And.left
 have hread:=components_textOf htrailing fun name hname=>mem_namesOf hname
 rw [Path.same,lexicallyNormal_plain hnonempty h,decide_eq_true_eq]
 exact hread.symm

lemma same_of_normal (hp:p.same p.lexicallyNormal=true)
 (hq:q.same q.lexicallyNormal=true)
 (h:p.lexicallyNormal.native=q.lexicallyNormal.native) : p.same q=true:=by
 have hnormal:p.lexicallyNormal=q.lexicallyNormal:=by
  cases hpn:p.lexicallyNormal
  cases hqn:q.lexicallyNormal
  simp_all
 rw [hnormal] at hp
 exact same_trans hp (same_symm hq)

end Normal

lemma slash_not_mem_digits {base n : ℕ} (hbase:base=10 ∨ base=16) : slash∉toChars base n:=by
 intro hmem
 obtain rfl | rfl:=hbase
 · obtain ⟨c,hc,hslash⟩:=List.mem_map.mp hmem
   have hdigit:=Nat.isDigit_of_mem_toDigits (by decide) (by decide) hc
   simp only [Char.isDigit,Bool.and_eq_true,decide_eq_true_eq] at hdigit
   have hlow:48 ≤ c.toNat:=hdigit.1
   have hhigh:c.toNat≤57:=hdigit.2
   have hvalue:=congrArg UInt8.toNat hslash
   simp only [slash,UInt8.toNat_ofNat',UInt8.reduceToNat] at hvalue
   omega
 · obtain hrange | hrange:=toChars_range n slash hmem
   · revert hrange
     decide
   · revert hrange
     decide

end VoVe.PathNormal
