import Mathlib.Data.List.Pairwise
import VoVe.PathNormal

set_option autoImplicit false

/-! The allowed roots of `global_search.cpp` in the POSIX build. -/

namespace VoVe.SearchRoots
open ByteCodec PosixPath PathNormal

def kMaximumSearchRoots : ℕ := 64
def backslash : UInt8 := 92

/-- The loop of `normalize_path` that pops the last byte, on the reversed text. -/
def popBack : Bytes → Bytes
 | last::before::rest=>
  if last = slash ∨ last = backslash then popBack (before::rest) else last::before::rest
 | short=>short

variable (text : Bytes)

def strip : Bytes := (popBack text.reverse).reverse

def normalizePath (encoded : Bytes) : Bytes:=
 if encoded = [] then []
 else
  let path:=(PosixPath.Path.mk encoded).lexicallyNormal
  if path.isAbsolute then strip path.native else []

def pathPrefix (candidate root : Bytes) : Bool:=
 if candidate.length < root.length ∨ candidate.take root.length≠root then false
 else if candidate.length = root.length then true
 else if root.getLast? = some slash then true
 else candidate[root.length]? = some slash

def addRoots (roots : List Bytes) : List Bytes → List Bytes
 | []=>roots
 | root::rest=>
  let normalized:=normalizePath root
  if normalized = [] then addRoots roots rest
  else if roots.any (pathPrefix normalized) then addRoots roots rest
  else
   let roots:=roots.filter (fun existing=>!pathPrefix existing normalized)++[normalized]
   if roots.length = kMaximumSearchRoots then roots else addRoots roots rest

variable (roots : List Bytes)

def normalizeAllowedRoots : List Bytes := addRoots [] roots

def pathIsWithinAllowedRoots (path : Bytes) (normalizedRoots : List Bytes) : Bool:=
 let normalized:=normalizePath path
 normalized≠[] ∧ normalizedRoots.any (pathPrefix normalized)

/-! ## Names -/

def normalNames : List Bytes := namesOf (PosixPath.Path.mk text).lexicallyNormal.native

/-- The names without trailing backslashes, of the last name first. -/
def trimReversed : List Bytes → List Bytes
 | []=>[]
 | name::before=>
  if name.rdropWhile (· = backslash) = [] then trimReversed before
  else name.rdropWhile (· = backslash)::before

variable (names : List Bytes)

def trimNames : List Bytes := (trimReversed names.reverse).reverse

/-- Some absolute root holds the path, name by name, when both are read by `names`. -/
def Holds (names : Bytes → List Bytes) (roots : List Bytes) (path : Bytes) : Prop:=
 (PosixPath.Path.mk path).isAbsolute = true ∧
  ∃ root ∈ roots,(PosixPath.Path.mk root).isAbsolute = true ∧ names root <+: names path

instance (names : Bytes → List Bytes) (roots : List Bytes) (path : Bytes):
  Decidable (Holds names roots path) := inferInstanceAs (Decidable (_ ∧ _))

def Clean : Prop := ∀name ∈ names,name≠[] ∧ slash ∉ name

def textOf (names : List Bytes) : Bytes := Path.textOf ⟨true,names,false⟩

def CleanState (state : List Bytes × Bool) : Prop := Clean state.1 ∧ (state.2 = true → state.1≠[])

lemma normalStep_clean {root : Bool} {state : List Bytes × Bool} {name : Bytes}
 (hstate:CleanState state) (hname:name≠[] ∧ slash∉name):
 CleanState (Path.normalStep root state name):=by
 have hdots:dotDot≠[] ∧ slash∉dotDot:=by decide
 unfold Path.normalStep
 grind [CleanState,Clean]

lemma foldl_clean {root : Bool} {names : List Bytes} (h:Clean names)
 {state : List Bytes × Bool} (hstate:CleanState state):
 CleanState (names.foldl (Path.normalStep root) state):=by
 induction names generalizing state with
 | nil=>exact hstate
 | cons name rest ih=>
  rw [List.foldl_cons]
  apply ih (fun other hother=>h other (List.mem_cons_of_mem _ hother))
  exact normalStep_clean hstate (h name List.mem_cons_self)

lemma normal_text {p : PosixPath.Path} (hne:p.native≠[]):
 p.lexicallyNormal.isAbsolute=p.isAbsolute ∧
  (p.isAbsolute=true → Clean (normalNames p.native) ∧ ∃ t,
   p.lexicallyNormal.native=Path.textOf ⟨true,normalNames p.native,t⟩):=by
 have hstart:CleanState ([],false):=⟨fun _ h=>(List.not_mem_nil h).elim,fun h=>Bool.noConfusion h⟩
 have hnames:Clean p.components.names:=fun name hname=>mem_namesOf hname
 have hclean:=@foldl_clean p.components.root _ hnames _ hstart
 have hempty:p.isEmpty=false:=by simpa [Path.isEmpty] using hne
 unfold normalNames
 simp only [Path.lexicallyNormal,hempty,Bool.false_eq_true,if_false]
 generalize p.components.names.foldl (Path.normalStep p.components.root) ([],false)=state
  at hclean
 by_cases hnone:state.1=[] ∧ !p.components.root
 · have hroot:p.components.root=false:=by simpa using hnone.2
   rw [if_pos hnone,Path.isAbsolute,Path.isAbsolute,hroot]
   exact ⟨rfl,(by simp)⟩
 · rw [if_neg hnone]
   have hread:(PosixPath.Path.mk (Path.textOf ⟨p.components.root,state.1.reverse,
     (if p.components.trailing=true then state.1≠[] else state.2=true) ∧
      state.1.head?≠some dotDot⟩)).components=_:=
    components_textOf (by grind [CleanState,List.reverse_eq_nil_iff])
     (by grind [CleanState,Clean])
   refine ⟨by rw [Path.isAbsolute,hread,Path.isAbsolute],?_⟩
   intro hroot
   rw [Path.isAbsolute] at hroot
   have hnames:=congrArg Components.names hread
   rw [hroot] at hnames ⊢
   rw [show namesOf _=state.1.reverse from hnames]
   exact ⟨fun name hname=>hclean.1 name (List.mem_reverse.mp hname),_,rfl⟩

lemma popBack_concat (last : UInt8) : strip (text++[last])=
 if (last=slash ∨ last=backslash) ∧ text≠[] then strip text else text++[last]:=by
 rw [strip,List.reverse_append,List.reverse_singleton,List.singleton_append]
 cases hrev:text.reverse with
 | nil=>
  rw [List.reverse_eq_nil_iff.mp hrev]
  simp [popBack]
 | cons b rest=>
  have hne:text≠[]:=by
   intro hnil
   rw [hnil] at hrev
   cases hrev
  rw [popBack,strip,hrev]
  by_cases hlast:last=slash ∨ last=backslash
  · rw [if_pos hlast,if_pos ⟨hlast,hne⟩]
  · rw [if_neg hlast,if_neg (fun h=>hlast h.1),←hrev]
    simp

lemma strip_slash {text : Bytes} (h:text≠[]) : strip (text++[slash])=strip text:=by
 rw [popBack_concat,if_pos ⟨Or.inl rfl,h⟩]

lemma strip_name {text name : Bytes} (htext:text≠[]) (hslash:slash∉name):
 strip (text++name)=if name.rdropWhile (·=backslash)=[] then strip text
  else text++name.rdropWhile (·=backslash):=by
 induction name using List.reverseRecOn with
 | nil=>rw [List.append_nil,List.rdropWhile_nil,if_pos rfl]
 | append_singleton front last ih=>
  rw [List.mem_append,List.mem_singleton,not_or] at hslash
  rw [←List.append_assoc,popBack_concat]
  by_cases hlast:last=backslash
  · rw [if_pos ⟨Or.inr hlast,List.append_ne_nil_of_left_ne_nil htext _⟩,ih hslash.1,
     List.rdropWhile_concat_pos _ _ _ (by simpa using hlast)]
  · have hkeep:¬((last=slash ∨ last=backslash) ∧ text++front≠[]):=by
     intro h
     exact h.1.elim (fun heq=>hslash.2 heq.symm) hlast
    rw [if_neg hkeep,List.rdropWhile_concat_neg _ _ _ (by simpa using hlast),
     if_neg (by simp),List.append_assoc]

lemma trimNames_concat (front : List Bytes) (name : Bytes) : trimNames (front++[name])=
 if name.rdropWhile (·=backslash)=[] then trimNames front
 else front++[name.rdropWhile (·=backslash)]:=by
 rw [trimNames,List.reverse_append,List.reverse_singleton,List.singleton_append,trimReversed]
 split
 · rfl
 · rw [List.reverse_cons,List.reverse_reverse]

lemma textOf_concat (front : List Bytes) (name : Bytes) : textOf (front++[name])=
 Path.textOf ⟨true,front,decide (front≠[])⟩++name:=by
 by_cases hfront:front=[]
 · rw [hfront]
   simp [textOf,Path.textOf]
 · simp [textOf,Path.textOf,hfront,intercalate_concat]

lemma strip_textOf {names : List Bytes} (h:Clean names) (t : Bool):
 strip (Path.textOf ⟨true,names,t⟩)=textOf (trimNames names):=by
 have hne:∀ (names : List Bytes) (t : Bool),
   Path.textOf ⟨true,names,t⟩≠[] := fun _ _=>List.cons_ne_nil _ _
 have hplain:∀ (names : List Bytes) (t : Bool),
   strip (Path.textOf ⟨true,names,t⟩)=strip (textOf names):=by
  intro names t
  cases t with
  | false=>rfl
  | true=>
   rw [textOf,←strip_slash (hne names false)]
   simp [Path.textOf]
 rw [hplain]
 induction names using List.reverseRecOn with
 | nil=>decide
 | append_singleton front name ih=>
  have hname:=h name (by simp)
  have hfront:Clean front:=fun other hother=>h other (List.mem_append_left _ hother)
  rw [textOf_concat,strip_name (hne _ _) hname.2,trimNames_concat,hplain]
  split
  · exact ih hfront
  · rw [textOf_concat]

lemma trimNames_clean {names : List Bytes} (h:Clean names) : Clean (trimNames names):=by
 induction names using List.reverseRecOn with
 | nil=>exact h
 | append_singleton front name ih=>
  have hfront:Clean front:=fun other hother=>h other (List.mem_append_left _ hother)
  rw [trimNames_concat]
  split
  · exact ih hfront
  · rename_i hkept
    intro other hother
    obtain hother | hother:=List.mem_append.mp hother
    · exact hfront other hother
    · rw [List.mem_singleton.mp hother]
      refine ⟨hkept,fun hslash=>(h name (by simp)).2 ?_⟩
      exact (List.rdropWhile_prefix _ _).subset hslash

lemma normalizePath_absolute {text : Bytes} (h:(PosixPath.Path.mk text).isAbsolute=true):
 Clean (trimNames (normalNames text)) ∧
  normalizePath text=textOf (trimNames (normalNames text)):=by
 have hne:text≠[]:=by
  rintro rfl
  cases h
 obtain ⟨habsolute,hnormal⟩:=normal_text (p := ⟨text⟩) hne
 obtain ⟨hclean,t,htext⟩:=hnormal h
 simp only [normalizePath,if_neg hne,habsolute,h,if_true,htext]
 exact ⟨trimNames_clean hclean,strip_textOf hclean t⟩

lemma normalizePath_relative {text : Bytes} (h:¬(PosixPath.Path.mk text).isAbsolute=true):
 normalizePath text=[]:=by
 by_cases hne:text=[]
 · rw [normalizePath,if_pos hne]
 · simp only [normalizePath,if_neg hne,(normal_text (p := ⟨text⟩) hne).1,h,
    Bool.false_eq_true,if_false]

lemma normalizePath_ne_nil:
 normalizePath text≠[] ↔ (PosixPath.Path.mk text).isAbsolute=true:=by
 by_cases h:(PosixPath.Path.mk text).isAbsolute=true
 · rw [(normalizePath_absolute h).2]
   exact iff_of_true (List.cons_ne_nil _ _) h
 · rw [normalizePath_relative h]
   exact iff_of_false (fun hno=>hno rfl) h

lemma pathPrefix_iff {candidate root : Bytes} : pathPrefix candidate root=true ↔
 ∃ rest,candidate=root++rest ∧
  (rest=[] ∨ root.getLast?=some slash ∨ rest.head?=some slash):=by
 unfold pathPrefix
 constructor
 · intro h
   split at h
   · cases h
   · rename_i hprefix
     rw [not_or,not_not] at hprefix
     refine ⟨candidate.drop root.length,?_,?_⟩
     · rw [← hprefix.2,List.length_take,Nat.min_eq_left (by omega),List.take_append_drop]
     · rw [List.head?_drop,List.drop_eq_nil_iff]
       grind
 · intro ⟨rest,hrest,hend⟩
   rw [List.head?_eq_getElem?] at hend
   rw [hrest,if_neg (by simp)]
   grind

lemma pathPrefix_refl : pathPrefix text text=true:=
 pathPrefix_iff.mpr ⟨[],(List.append_nil _).symm,Or.inl rfl⟩

lemma pathPrefix_trans {a b c : Bytes} (hab:pathPrefix a b=true)
 (hbc:pathPrefix b c=true) : pathPrefix a c=true:=by
 obtain ⟨rest,rfl,hrest⟩:=pathPrefix_iff.mp hab
 obtain ⟨more,rfl,hmore⟩:=pathPrefix_iff.mp hbc
 refine pathPrefix_iff.mpr ⟨more++rest,List.append_assoc _ _ _,?_⟩
 cases more with
 | nil=>simpa using hrest
 | cons b more=>exact Or.inr (by simpa using hmore)

lemma pathPrefix_antisymm {a b : Bytes} (hab:pathPrefix a b=true)
 (hba:pathPrefix b a=true) : a=b:=by
 obtain ⟨rest,rfl,-⟩:=pathPrefix_iff.mp hab
 obtain ⟨more,hmore,-⟩:=pathPrefix_iff.mp hba
 have hlength:=congrArg List.length hmore
 simp only [List.length_append] at hlength
 rw [List.eq_nil_of_length_eq_zero (by omega : rest.length=0),List.append_nil]

lemma names_textOf {names : List Bytes} (h:Clean names) : namesOf (textOf names)=names:=
 congrArg Components.names (components_textOf (c := ⟨true,names,false⟩) nofun h)

lemma textOf_cons : textOf names=slash::[slash].intercalate names:=by
 simp [textOf,Path.textOf]

lemma pathPrefix_textOf {names root : List Bytes} (hnames:Clean names) (hroot:Clean root):
 pathPrefix (textOf names) (textOf root)=true ↔ root <+: names:=by
 rw [pathPrefix_iff]
 by_cases hnil:root=[]
 · rw [hnil]
   refine iff_of_true ⟨[slash].intercalate names,textOf_cons names,Or.inr (Or.inl rfl)⟩ ?_
   exact List.nil_prefix
 obtain ⟨-,last,-,hlast,-,hne⟩:=intercalate_ends hnil hroot
 constructor
 · intro ⟨rest,htext,hend⟩
   have hread:=names_textOf hnames
   rw [htext] at hread
   cases rest with
   | nil=>
    rw [List.append_nil,names_textOf hroot] at hread
    exact hread ▸ List.prefix_refl _
   | cons b rest=>
    have hb:b=slash:=by
     rw [textOf_cons,List.getLast?_cons,hlast] at hend
     simpa [hne] using hend
    rw [hb,namesOf_append_slash,names_textOf hroot] at hread
    exact ⟨_,hread⟩
 · intro ⟨more,hmore⟩
   by_cases hmore':more=[]
   · exact ⟨[],by rw [←hmore,hmore',List.append_nil,List.append_nil],Or.inl rfl⟩
   · refine ⟨slash::[slash].intercalate more,?_,Or.inr (Or.inr rfl)⟩
     rw [←hmore,textOf_cons,intercalate_append hnil hmore',textOf_cons,List.cons_append]

/-! ## The list of roots -/

def Normalized (text : Bytes) : Prop := text≠[] ∧ ∃ root ∈ roots,normalizePath root = text

def Antichain : Prop := roots.Pairwise fun a b=>pathPrefix a b = false ∧ pathPrefix b a = false

lemma addRoots_spec {kept rest : List Bytes} (hsize:kept.length+rest.length≤kMaximumSearchRoots)
 (hkept:Antichain kept) : Antichain (addRoots kept rest) ∧
  (∀x∈addRoots kept rest,x∈kept ∨ Normalized rest x) ∧
  ∀x,x∈kept ∨ Normalized rest x → ∃ y∈addRoots kept rest,pathPrefix x y=true:=by
 induction rest generalizing kept with
 | nil=>
  refine ⟨hkept,fun x hx=>Or.inl hx,fun x hx=>⟨x,?_,pathPrefix_refl x⟩⟩
  obtain hx | ⟨-,root,hroot,-⟩:=hx
  · exact hx
  · cases hroot
 | cons root rest ih=>
  rw [List.length_cons] at hsize
  have hmore:∀x,Normalized (root::rest) x ↔
    (normalizePath root≠[] ∧ x=normalizePath root) ∨ Normalized rest x:=by
   intro x
   simp only [Normalized,List.exists_mem_cons_iff]
   grind
  simp only [addRoots,hmore]
  split
  · rename_i hnone
    have hrest:=ih (by omega) hkept
    grind
  · rename_i hsome
    split
    · rename_i hcovered
      have hrest:=ih (by omega) hkept
      obtain ⟨existing,hexisting,hbelow⟩:=List.any_eq_true.mp hcovered
      refine ⟨hrest.1,fun x hx=>?_,?_⟩
      · have:=hrest.2.1 x hx
        tauto
      · rintro x (hx | ⟨-,rfl⟩ | hx)
        · exact hrest.2.2 x (Or.inl hx)
        · obtain ⟨y,hy,hexisting⟩:=hrest.2.2 existing (Or.inl hexisting)
          exact ⟨y,hy,pathPrefix_trans hbelow hexisting⟩
        · exact hrest.2.2 x (Or.inr hx)
    · rename_i hfree
      have hpruned:=List.length_filter_le
       (fun existing=>!pathPrefix existing (normalizePath root)) kept
      generalize hnext : kept.filter (fun existing=>!pathPrefix existing (normalizePath root)) ++
       [normalizePath root]=next
      have hmem:∀x,x∈next ↔
        (x∈kept ∧ pathPrefix x (normalizePath root)=false) ∨ x=normalizePath root:=by
       intro x
       simp [←hnext]
      have hlength:next.length≤kept.length+1:=by
       simp only [←hnext,List.length_append,List.length_singleton]
       omega
      have hanti:Antichain next:=by
       rw [Antichain,←hnext,List.pairwise_append]
       refine ⟨hkept.filter _,List.pairwise_singleton _ _,?_⟩
       intro a ha b hb
       rw [List.mem_singleton.mp hb]
       rw [List.any_eq_true] at hfree
       grind
      have hlast:(if next.length=kMaximumSearchRoots then next else addRoots next rest)=
        addRoots next rest:=by
       split
       · rw [List.eq_nil_of_length_eq_zero (by omega : rest.length=0),addRoots]
       · rfl
      have hrest:=ih (by omega) hanti
      rw [hlast]
      refine ⟨hrest.1,fun x hx=>?_,?_⟩
      · have hback:=hrest.2.1 x hx
        rw [hmem] at hback
        tauto
      · rintro x (hx | ⟨-,rfl⟩ | hx)
        · by_cases hbelow:pathPrefix x (normalizePath root)=true
          · obtain ⟨y,hy,hroot⟩:=hrest.2.2 _ (Or.inl ((hmem _).mpr (Or.inr rfl)))
            exact ⟨y,hy,pathPrefix_trans hbelow hroot⟩
          · exact hrest.2.2 x (Or.inl ((hmem x).mpr (Or.inl ⟨hx,by simpa using hbelow⟩)))
        · exact hrest.2.2 _ (Or.inl ((hmem _).mpr (Or.inr rfl)))
        · exact hrest.2.2 x (Or.inr hx)

variable {roots : List Bytes}

section
variable (h:roots.length≤kMaximumSearchRoots)
include h

lemma normalized_spec : Antichain (normalizeAllowedRoots roots) ∧
  (∀x∈normalizeAllowedRoots roots,Normalized roots x) ∧
  ∀x,Normalized roots x → ∃ y∈normalizeAllowedRoots roots,pathPrefix x y=true:=by
 obtain ⟨hanti,hmem,hcover⟩:=@addRoots_spec [] roots (by simpa using h) List.Pairwise.nil
 exact ⟨hanti,fun x hx=>(hmem x hx).resolve_left (List.not_mem_nil),fun x hx =>
  hcover x (Or.inr hx)⟩

lemma mem_normalized (x : Bytes) : x∈normalizeAllowedRoots roots ↔
  Normalized roots x ∧ ∀y,Normalized roots y → pathPrefix x y=true → y=x:=by
 obtain ⟨hanti,hmem,hcover⟩:=normalized_spec h
 constructor
 · intro hx
   refine ⟨hmem x hx,fun y hy hbelow=>?_⟩
   obtain ⟨z,hz,hyz⟩:=hcover y hy
   have hxz:=pathPrefix_trans hbelow hyz
   by_cases hne:x=z
   · rw [hne] at hbelow
     rw [hne]
     exact pathPrefix_antisymm hyz hbelow
   · have hsymm:Std.Symm fun a b=>pathPrefix a b=false ∧ pathPrefix b a=false:=
      ⟨fun a b hab=>⟨hab.2,hab.1⟩⟩
     have happart:=hanti.forall hx hz hne
     rw [happart.1] at hxz
     cases hxz
 · intro ⟨hx,hleast⟩
   obtain ⟨z,hz,hbelow⟩:=hcover x hx
   rw [←hleast z (hmem z hz) hbelow]
   exact hz

/-- What the code decides: names are compared without their trailing backslashes. -/
lemma within_iff (path : Bytes):
 pathIsWithinAllowedRoots path (normalizeAllowedRoots roots)=true ↔
  Holds (fun text=>trimNames (normalNames text)) roots path:=by
 obtain ⟨-,hmem,hcover⟩:=normalized_spec h
 simp only [pathIsWithinAllowedRoots,decide_eq_true_eq,normalizePath_ne_nil,List.any_eq_true]
 have hbelow:∀root,(PosixPath.Path.mk root).isAbsolute=true →
  (PosixPath.Path.mk path).isAbsolute=true →
   (pathPrefix (normalizePath path) (normalizePath root)=true ↔
    trimNames (normalNames root) <+: trimNames (normalNames path)):=by
  intro root hroot hpath
  rw [(normalizePath_absolute hroot).2,(normalizePath_absolute hpath).2]
  exact pathPrefix_textOf (normalizePath_absolute hpath).1 (normalizePath_absolute hroot).1
 constructor
 · intro ⟨hpath,x,hx, hprefix⟩
   obtain ⟨hne,root,hroot,rfl⟩:=hmem x hx
   have habsolute:=(normalizePath_ne_nil root).mp hne
   exact ⟨hpath,root,hroot,habsolute,(hbelow root habsolute hpath).mp hprefix⟩
 · intro ⟨hpath,root,hroot,habsolute, hprefix⟩
   obtain ⟨x,hx,hcovered⟩:=hcover (normalizePath root)
    ⟨(normalizePath_ne_nil root).mpr habsolute,root,hroot,rfl⟩
   exact ⟨hpath,x,hx,pathPrefix_trans ((hbelow root habsolute hpath).mpr hprefix) hcovered⟩

end

/-- The path is judged by the names of the normal forms; the kept roots are an antichain and
depend only on which roots are given. -/
def RootsExact (roots : List Bytes) (path : Bytes) : Prop:=
 (pathIsWithinAllowedRoots path (normalizeAllowedRoots roots) = true ↔
  Holds normalNames roots path) ∧
 Antichain (normalizeAllowedRoots roots) ∧
 ∀other : List Bytes,other.length ≤ kMaximumSearchRoots → (∀root,root ∈ other ↔ root ∈ roots) →
  ∀x,x ∈ normalizeAllowedRoots other ↔ x ∈ normalizeAllowedRoots roots

theorem roots_exact_iff (roots : List Bytes) (path : Bytes)
 (h:roots.length≤kMaximumSearchRoots) : RootsExact roots path ↔
  (Holds (fun text=>trimNames (normalNames text)) roots path ↔ Holds normalNames roots path):=by
 rw [RootsExact,within_iff h,and_iff_left]
 refine ⟨(normalized_spec h).1,?_⟩
 intro other hother hsame x
 simp only [mem_normalized hother,mem_normalized h,Normalized,hsame]

theorem roots_exact_home : RootsExact [[47,104]] [47,104,47,97]:=
 (roots_exact_iff _ _ (by decide)).mpr (iff_of_true (by decide) (by decide))

/-- The root is a directory whose name ends in a backslash. -/
theorem root_widened : ¬∀ (roots : List Bytes) (path : Bytes),
 roots.length≤kMaximumSearchRoots → RootsExact roots path:=by
 intro h
 have hexact:=(h [[47,97,92]] [47,97,47,98] (by decide)).1
 rw [within_iff (by decide)] at hexact
 exact absurd (hexact.mp (by decide)) (by decide)

end VoVe.SearchRoots
