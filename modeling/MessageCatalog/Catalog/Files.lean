import MessageCatalog.Catalog.Codec
import MessageCatalog.Workspace.FileTree

/-!
# Catalogs in files

The bytes of a catalog are read in a charset. A text that is the name of a file is not taken for a
catalog: the file of that name is opened and read in its place. So what some bytes mean can depend
on the files that are there, and in a batch on what became of them before.
-/

namespace MessageCatalog.Catalog

/-- Read the text of a file that was opened by its name. -/
def parseOpened (file : Text) (t : Text) (charset : Text) : Except Failure Catalog := do
  let d ← (Document.ofLines (Document.openedLines t)).mapError (Failure.inFile file)
  return ofDocument d charset

/-- Read the content of a catalog file in a charset, or in its place the file that the content is
the name of, seen from the current directory. A file that is opened by its name is refused as a
whole if some of its bytes stand for no character, even if a line before them has a fault. -/
def ofContent (tree : FileTree) (current : Location) (bytes : ByteArray) (charset : Text) :
    Except Failure Catalog := do
  let t ← Charset.decodeNamed charset bytes
  match tree.fileNamed? current t with
  | none => parse t charset
  | some loc => parseOpened t (← Charset.decodeNamed charset (← tree.read loc)) charset

end MessageCatalog.Catalog
