import Mathlib.Data.List.DropRight
import VoVe.AsciiText

set_option autoImplicit false

/-! Paths as POSIX file systems and `std::filesystem` read them: bytes that are
  compared, joined and normalized by their components. -/

namespace VoVe.PosixPath
open ByteCodec

def slash : UInt8 := 47
def dot : UInt8 := 46
def dotDot : Bytes := [dot,dot]

structure Path where
 native : Bytes
 deriving DecidableEq

/-- The root directory, the names below it, and the empty last component that a
  trailing slash leaves. -/
structure Components where
 root : Bool
 names : List Bytes
 trailing : Bool
 deriving DecidableEq

def namesOf (native : Bytes) : List Bytes := (native.splitOn slash).filter fun name=>name≠[]

namespace Path

variable (p : Path)

def components : Components where
 root:=p.native.head? = some slash
 names:=namesOf p.native
 trailing:=namesOf p.native≠[] ∧ p.native.getLast? = some slash

def same (p q : Path) : Bool := p.components = q.components

def isEmpty (p : Path) : Bool := p.native.isEmpty

def isAbsolute : Bool := p.components.root

/-- What follows the last slash. -/
def filename : Path := ⟨p.native.rtakeWhile (·≠slash)⟩

def hasFilename : Bool := !p.filename.isEmpty

/-- Where the extension of a name starts: the last dot, unless it is the first
  character. -/
def extensionStart (name : Bytes) : Option ℕ:=
 if name.length ≤ 2 ∧ name.head? = some dot then none
 else
  match AsciiText.findLast name dot with
  | some 0=>none
  | position=>position

def extension : Path:=
 let name:=p.filename.native
 ⟨(extensionStart name).elim [] name.drop⟩

def stem : Path:=
 let name:=p.filename.native
 ⟨(extensionStart name).elim name name.take⟩

/-- The text up to the end of the last component but one. -/
def parentPath : Path:=
 if p.components.names = [] then p
 else if p.components.trailing then ⟨p.native.rdropWhile (· = slash)⟩
 else
  let before:=p.native.take (p.native.length - p.filename.native.length)
  let stripped:=before.rdropWhile (· = slash)
  if stripped = [] then ⟨if p.components.root then [slash] else []⟩ else ⟨stripped⟩

def append (p q : Path) : Path:=
 if q.isAbsolute ∨ p.isEmpty then q
 else if p.hasFilename then ⟨p.native++slash::q.native⟩
 else ⟨p.native++q.native⟩

instance : Div Path := ⟨append⟩

/-- One component of a lexical normalization. The names met so far stand last
  first; the flag is a trailing slash. -/
def normalStep (root : Bool) : List Bytes × Bool → Bytes → List Bytes × Bool
 | (names,_), name=>
  if name = dotDot then
   match names with
   | []=>if root then ([],false) else ([dotDot],false)
   | top::rest=>if top = dotDot then (dotDot::names,false) else (rest,rest≠[])
  else if name = [dot] then (names,names≠[])
  else (name::names,false)

def textOf (c : Components) : Bytes:=
 (if c.root then [slash] else [])++[slash].intercalate c.names ++
  if c.trailing then [slash] else []

def lexicallyNormal : Path:=
 if p.isEmpty then p
 else
  let c:=p.components
  let (names,trailing) := c.names.foldl (normalStep c.root) ([],false)
  let trailing:=if c.trailing then names≠[] else trailing
  if names = [] ∧ !c.root then ⟨[dot]⟩
  else ⟨textOf ⟨c.root,names.reverse,trailing ∧ names.head?≠some dotDot⟩⟩

end Path

lemma namesOf_append_slash (a b : Bytes) : namesOf (a++slash::b)=namesOf a++namesOf b:=by
 simp [namesOf,List.splitOn_append_cons_self]

lemma namesOf_leaf {leaf : Bytes} (hne:leaf≠[]) (hslash:slash∉leaf) : namesOf leaf=[leaf]:=by
 simp [namesOf,List.splitOn_eq_singleton hslash,hne]

@[simp] lemma namesOf_nil : namesOf []=[] := by simp [namesOf]

variable (before : Bytes)

lemma getLast?_slash_leaf {leaf : Bytes} (hne:leaf≠[]):
 (before++slash::leaf).getLast?=leaf.getLast?:=by
 obtain ⟨front,last,rfl⟩:=(List.eq_nil_or_concat leaf).resolve_left hne
 simp [List.getLast?_append,List.getLast?_cons]

lemma components_slash_leaf {leaf : Bytes} (hne:leaf≠[])
 (hslash:slash∉leaf) : (Path.mk (before++slash::leaf)).components=
  { root:=(before++[slash]).head?=some slash,names:=namesOf before++[leaf],
    trailing:=false }:=by
 have hlast:leaf.getLast?≠some slash:=fun h=>hslash (List.mem_of_getLast? h)
 have hhead:(before++slash::leaf).head?=(before++[slash]).head?:=by
  cases before with
  | nil=>rfl
  | cons b rest=>rfl
 simp only [Path.components,namesOf_append_slash,namesOf_leaf hne hslash,hhead,
  getLast?_slash_leaf before hne,hlast,and_false,decide_false]

lemma filename_of_slash {leaf : Bytes} (hslash:slash∉leaf):
 (Path.mk (before++slash::leaf)).filename = ⟨leaf⟩:=by
 have hpos:∀b∈leaf.reverse,decide (b≠slash)=true:=by
  intro b hb
  simp only [decide_eq_true_eq]
  rintro rfl
  exact hslash (List.mem_reverse.mp hb)
 have htake:(leaf.reverse++slash::before.reverse).takeWhile (·≠slash)=leaf.reverse:=by
  rw [List.takeWhile_append_of_pos hpos]
  simp
 simp only [Path.filename,List.rtakeWhile,List.reverse_append,List.reverse_cons,
  List.append_assoc,List.singleton_append,htake,List.reverse_reverse]

lemma filename_of_leaf {leaf : Bytes} (hslash:slash∉leaf):
 (Path.mk leaf).filename = ⟨leaf⟩:=by
 have hpos:∀b∈leaf.reverse,decide (b≠slash)=true:=by
  intro b hb
  simp only [decide_eq_true_eq]
  rintro rfl
  exact hslash (List.mem_reverse.mp hb)
 have htake:leaf.reverse.takeWhile (·≠slash)=leaf.reverse:=List.takeWhile_eq_self_iff.mpr hpos
 simp only [Path.filename,List.rtakeWhile,htake,List.reverse_reverse]

lemma last_slash (n : Bytes):
 slash∉n ∨ ∃ before leaf,n=before++slash::leaf ∧ slash∉leaf:=by
 by_cases hmem:slash∈n
 · obtain ⟨after,before,h,hafter⟩:=
    List.eq_append_cons_of_mem (List.mem_reverse.mpr hmem)
   refine .inr ⟨before.reverse,after.reverse,?_,by simpa using hafter⟩
   rw [←List.reverse_reverse n,h]
   simp
 · exact .inl hmem

variable (p : Path)

lemma filename_components : p.filename.native=
 if p.components.trailing then [] else p.components.names.getLast?.getD []:=by
 obtain ⟨n⟩:=p
 obtain hleaf | ⟨before,leaf,rfl,hleaf⟩:=last_slash n
 · rw [filename_of_leaf hleaf]
   have hlast:n.getLast?≠some slash:=fun h=>hleaf (List.mem_of_getLast? h)
   by_cases hne:n=[]
   · subst hne
     rfl
   · simp [Path.components,hlast,namesOf_leaf hne hleaf]
 · rw [filename_of_slash before hleaf]
   by_cases hne:leaf=[]
   · subst hne
     have hnames:namesOf (before++[slash])=namesOf before:=by
      rw [namesOf_append_slash,namesOf_nil,List.append_nil]
     by_cases hbefore:namesOf before=[]
     · simp [Path.components,hnames,hbefore]
     · simp [Path.components,hnames,hbefore]
   · rw [components_slash_leaf before hne hleaf]
     simp

lemma same_filename {p q : Path} (h:p.same q) : p.filename=q.filename:=by
 have hcomponents:p.components=q.components:=by simpa [Path.same] using h
 have hnative:p.filename.native=q.filename.native:=by
  rw [filename_components,filename_components,hcomponents]
 cases hp:p.filename
 cases hq:q.filename
 simp_all

lemma head?_of_no_names (n : Bytes) (h:namesOf n=[]) : n=[] ∨ n.head?=some slash:=by
 obtain hleaf | ⟨before,leaf,rfl,hleaf⟩:=last_slash n
 · refine .inl ?_
   by_contra hne
   rw [namesOf_leaf hne hleaf] at h
   cases h
 · rw [namesOf_append_slash,List.append_eq_nil_iff] at h
   obtain hempty | hhead:=head?_of_no_names before h.1
   · rw [hempty]
     exact .inr rfl
   · obtain ⟨rest,rfl⟩:=List.head?_eq_some_iff.mp hhead
     exact .inr rfl
termination_by n.length
decreasing_by
 subst_vars
 simp only [List.length_append,List.length_cons]
 omega

lemma isEmpty_components:
 p.isEmpty=(decide (p.components.names=[]) && !p.components.root):=by
 obtain ⟨n⟩:=p
 cases n with
 | nil=>simp [Path.isEmpty,Path.components]
 | cons b rest=>
  have hhead:namesOf (b::rest)=[] → b=slash:=fun h=>by
   simpa using head?_of_no_names (b::rest) h
  by_cases hnames:namesOf (b::rest)=[]
  · simp [Path.isEmpty,Path.components,hhead hnames]
  · simp [Path.isEmpty,Path.components,hnames]

lemma filename_no_slash : slash∉p.filename.native:=by
 obtain ⟨n⟩:=p
 obtain hleaf | ⟨before,leaf,rfl,hleaf⟩:=last_slash n
 · rw [filename_of_leaf hleaf]
   exact hleaf
 · rw [filename_of_slash before hleaf]
   exact hleaf

@[simp] lemma filename_filename : p.filename.filename=p.filename:=
 filename_of_leaf (filename_no_slash p)

lemma filename_of_same {p : Path} (h:p.same p.filename) : p.filename=p:=by
 obtain ⟨n⟩:=p
 obtain hleaf | ⟨before,leaf,rfl,hleaf⟩:=last_slash n
 · exact filename_of_leaf hleaf
 · exfalso
   rw [filename_of_slash before hleaf] at h
   have hcomponents:(Path.mk (before++slash::leaf)).components=
     (Path.mk leaf).components := by simpa [Path.same] using h
   have hnames:namesOf (before++slash::leaf)=namesOf leaf:=congrArg Components.names hcomponents
   have hroot:((before++slash::leaf).head?=some slash)=(leaf.head?=some slash):=by
    simpa [Path.components] using congrArg Components.root hcomponents
   rw [namesOf_append_slash,List.append_left_eq_self] at hnames
   have habsolute:(before++slash::leaf).head?=some slash:=by
    obtain hempty | hhead:=head?_of_no_names before hnames
    · rw [hempty]
      rfl
    · obtain ⟨rest,rfl⟩:=List.head?_eq_some_iff.mp hhead
      rfl
   rw [hroot] at habsolute
   exact hleaf (List.mem_of_head? habsolute)

lemma same_lexicallyNormal {p q : Path} (h:p.same q):
 p.lexicallyNormal.native=q.lexicallyNormal.native:=by
 have hcomponents:p.components=q.components:=by simpa [Path.same] using h
 have hempty:p.isEmpty=q.isEmpty:=by
  rw [isEmpty_components,isEmpty_components,hcomponents]
 cases hp:p.isEmpty with
 | true=>
  rw [hp] at hempty
  simp only [Path.lexicallyNormal,hp,←hempty,if_true]
  simp only [Path.isEmpty,List.isEmpty_iff] at hp hempty
  rw [hp,List.isEmpty_iff.mp hempty.symm]
 | false=>
  rw [hp] at hempty
  simp only [Path.lexicallyNormal,hp,←hempty,hcomponents,Bool.false_eq_true,if_false]

@[simp] lemma same_refl : p.same p := by simp [Path.same]

lemma same_symm {p q : Path} (h:p.same q) : q.same p:=by
 simpa [Path.same,eq_comm] using h

lemma same_trans {p q r : Path} (hpq:p.same q) (hqr:q.same r) : p.same r:=by
 simp only [Path.same,decide_eq_true_eq] at *
 exact hpq.trans hqr

section Leaf
variable (p : Path) {leaf : Bytes}

lemma isAbsolute_leaf (hslash:slash∉leaf) : (Path.mk leaf).isAbsolute=false:=by
 cases leaf with
 | nil=>rfl
 | cons b rest=>
  have hb:b≠slash:=fun h=>hslash (h ▸ List.mem_cons_self)
  simp [Path.isAbsolute,Path.components,hb]

/-- Joining a name is appending it, after a slash where the path has no
  trailing one. -/
lemma join_leaf (hslash:slash∉leaf) : (p / ⟨leaf⟩ = ⟨leaf⟩ ∧ p.native=[]) ∨
 (∃ before,p.native=before++[slash] ∧ p / ⟨leaf⟩ = ⟨before++slash::leaf⟩) ∨
 (p.native.getLast?≠some slash ∧ p.native≠[] ∧ p / ⟨leaf⟩ = ⟨p.native++slash::leaf⟩):=by
 have habsolute:=isAbsolute_leaf hslash
 by_cases hempty:p.native=[]
 · have hisEmpty:p.isEmpty=true:=by simp [Path.isEmpty,hempty]
   exact .inl ⟨by change Path.append _ _=_; simp [Path.append,hisEmpty],hempty⟩
 · have hisEmpty:p.isEmpty=false:=by simp [Path.isEmpty,hempty]
   by_cases hlast:p.native.getLast?=some slash
   · obtain ⟨before,hbefore⟩:=List.getLast?_eq_some_iff.mp hlast
     have hfilename:p.hasFilename=false:=by
      simp [Path.hasFilename,Path.isEmpty,Path.filename,hbefore,List.rtakeWhile]
     refine .inr (.inl ⟨before,hbefore,?_⟩)
     change Path.append _ _=_
     simp [Path.append,habsolute,hisEmpty,hfilename,hbefore]
   · have hfilename:p.hasFilename=true:=by
      have htake:p.native.rtakeWhile (·≠slash)≠[]:=by
       rw [ne_eq,List.rtakeWhile_eq_nil_iff]
       intro hall
       have hget:=hall hempty
       rw [List.getLast?_eq_some_getLast hempty] at hlast
       simp_all
      simpa [Path.hasFilename,Path.isEmpty,Path.filename] using htake
     refine .inr (.inr ⟨hlast,hempty,?_⟩)
     change Path.append _ _=_
     simp [Path.append,habsolute,hisEmpty,hfilename]

lemma components_leaf (hne:leaf≠[]) (hslash:slash∉leaf) : (p / ⟨leaf⟩).components=
  { root:=p.components.root,names:=p.components.names++[leaf],trailing:=false }:=by
 obtain ⟨hjoin,hempty⟩ | ⟨before,hbefore,hjoin⟩ | ⟨-,hempty,hjoin⟩:=join_leaf p hslash
 · have hlast:leaf.getLast?≠some slash:=fun h=>hslash (List.mem_of_getLast? h)
   have hhead:leaf.head?≠some slash:=fun h=>hslash (List.mem_of_head? h)
   rw [hjoin]
   simp only [Path.components,hempty,namesOf_leaf hne hslash,hlast,hhead,namesOf_nil]
   simp
 · rw [hjoin,components_slash_leaf before hne hslash]
   simp only [Path.components,hbefore,namesOf_append_slash,namesOf_nil,List.append_nil]
 · rw [hjoin,components_slash_leaf p.native hne hslash]
   obtain ⟨n⟩:=p
   cases n with
   | nil=>exact absurd rfl hempty
   | cons b rest=>rfl

lemma filename_leaf (hslash:slash∉leaf) : (p / ⟨leaf⟩).filename = ⟨leaf⟩:=by
 obtain ⟨hjoin,-⟩ | ⟨before,-,hjoin⟩ | ⟨-,-,hjoin⟩:=join_leaf p hslash
 · rw [hjoin,filename_of_leaf hslash]
 · rw [hjoin,filename_of_slash before hslash]
 · rw [hjoin,filename_of_slash p.native hslash]

/-- The parent of a path joined with a name, whatever the name. -/
def leafParent : Path:=
 let stripped:=p.native.rdropWhile (· = slash)
 if stripped = [] then ⟨if p.components.root then [slash] else []⟩ else ⟨stripped⟩

lemma rdropWhile_slash:
 (before++[slash]).rdropWhile (·=slash)=before.rdropWhile (·=slash):=
 List.rdropWhile_concat_pos _ _ _ (by simp)

lemma take_slash_leaf (before leaf : Bytes) : (before++slash::leaf).take
 ((before++slash::leaf).length - leaf.length)=before++[slash]:=by
 rw [List.append_cons]
 exact List.take_left' (by simp; omega)

lemma parentPath_leaf (hne:leaf≠[]) (hslash:slash∉leaf):
 (p / ⟨leaf⟩).parentPath=leafParent p:=by
 have hcomponents:=components_leaf p hne hslash
 have hnames:(p / ⟨leaf⟩).components.names≠[]:=by simp [hcomponents]
 have htrailing:(p / ⟨leaf⟩).components.trailing=false:=by rw [hcomponents]
 have hroot:(p / ⟨leaf⟩).components.root=p.components.root:=by rw [hcomponents]
 have hbefore:((p / ⟨leaf⟩).native.take ((p / ⟨leaf⟩).native.length - leaf.length)).rdropWhile
   (·=slash)=p.native.rdropWhile (·=slash):=by
  obtain ⟨hjoin,hempty⟩ | ⟨before,hp,hjoin⟩ | ⟨-,-,hjoin⟩:=join_leaf p hslash
  · simp [hjoin,hempty]
  · rw [hjoin,take_slash_leaf,hp]
  · rw [hjoin,take_slash_leaf,rdropWhile_slash]
 simp only [Path.parentPath,if_neg hnames,htrailing,filename_leaf p hslash,hroot,leafParent,
  Bool.false_eq_true,if_false,hbefore]

end Leaf

end VoVe.PosixPath
