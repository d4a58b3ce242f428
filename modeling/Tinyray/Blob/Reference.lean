import Tinyray.Proto.Wire

/-!
# References to blobs

A blob is a sealed file in memory with a header before its bytes.  A reference
shares what it refers to with its clones; one that was opened from a descriptor
also has a handle, which the clones have not.  `inspect` is what is asked of a
descriptor and of the file it names before anything is counted.
-/

namespace Tinyray.Blob

/-- `usize::MAX` -/
def usizeMax : Nat := 2 ^ 64 - 1

/-- `HEADER_BYTES` -/
def headerBytes : Nat := 32

/-- `BLOB_PROTOCOL` -/
def blobProtocol : Nat := 1

/-- What is sent of a blob. -/
structure BlobDescriptor where
  version : Nat := blobProtocol
  boot : List UInt8
  ownerPid : Nat
  fd : Int
  size : Nat
  device : Nat
  inode : Nat
  token : List UInt8
deriving DecidableEq

/-- Why a blob is refused. -/
inductive BlobError where
  | unsupported (message : String)
  | invalid (message : String)
  | tooLarge (size maximum : Nat)
  | differentHost
  | stale (message : String)
  | permission (message : String)
  | resourceLimit (message : String)
  | io (message : String)
  | codec (message : String)
  | closed
deriving DecidableEq

/-- What a reference refers to, by the address it is at. -/
structure BlobInner where
  address : Nat
  descriptor : BlobDescriptor
  /-- It was mapped from a descriptor, and counts as a decoded mapping. -/
  decoded : Bool
deriving DecidableEq

/-- The bytes of its mapping. -/
def BlobInner.mappedBytes (inner : BlobInner) : Nat := headerBytes + inner.descriptor.size

/-- A reference that is closed has nothing in it. -/
structure BlobRef where
  inner : Option BlobInner
  decodedHandle : Bool := false
deriving DecidableEq

namespace BlobRef

/-- A clone has no handle of its own. -/
def clone (blob : BlobRef) : BlobRef :=
  { blob with decodedHandle := false }

/-- `BlobRef::len` -/
def len (blob : BlobRef) : Nat := (blob.inner.map fun inner => inner.descriptor.size).getD 0

/-- `BlobRef::shares_storage` -/
def sharesStorage (left right : BlobRef) : Bool :=
  match left.inner, right.inner with
  | some first, some second => first.address = second.address
  | _, _ => false

/-- The length with the header, at most the largest number there is. -/
def mappedLen (blob : BlobRef) : Nat := min (blob.len + headerBytes) usizeMax

end BlobRef

/-! ## Opening -/

/-- The file that a descriptor names, as far as it is looked at. -/
structure OwnerFile where
  device : Nat
  inode : Nat
  length : Nat
  /-- It has all of `REQUIRED_SEALS`. -/
  isSealed : Bool
  /-- The bytes of the header, or why they cannot be read. -/
  header : Except String (List UInt8)

/-- The system on which a descriptor is opened. -/
structure Host where
  bootFingerprint : Except BlobError (List UInt8)
  /-- `/proc/self/fd` is a directory. -/
  proc : Bool
  openFd : Nat → Int → Except BlobError OwnerFile

/-- `HEADER_MAGIC` -/
def headerMagic : List UInt8 := [0x54, 0x52, 0x42, 0x4c, 0x4f, 0x42, 0x30, 0x31]

/-- The header belongs to the descriptor. -/
def headerMatches (header : List UInt8) (descriptor : BlobDescriptor) : Bool :=
  header.take 8 == headerMagic && (header.drop 8).take 16 == descriptor.token &&
    (header.drop 24).take 8 == Proto.toBeBytes 8 descriptor.size

/-- The check of the size. -/
def checkSize (size maximum : Nat) : Except BlobError Unit :=
  if size > maximum ∨ size > usizeMax then .error (.tooLarge size maximum)
  else if headerBytes + size > usizeMax then .error (.invalid "BlobRef size overflow")
  else .ok ()

namespace BlobDescriptor

variable (descriptor : BlobDescriptor)

/-- The file is the one that was described. -/
def verify (file : OwnerFile) : Except BlobError Unit :=
  if file.device ≠ descriptor.device then
    .error (.stale "BlobRef fd device does not match the descriptor")
  else if file.inode ≠ descriptor.inode then
    .error (.stale "BlobRef fd was closed or reused for another object")
  else if file.length ≠ headerBytes + descriptor.size then
    .error
      (.stale
        ("BlobRef file size is " ++ toString file.length ++ ", descriptor requires " ++
          toString (headerBytes + descriptor.size)))
  else if !file.isSealed then .error (.permission "BlobRef memfd is not fully sealed read-only")
  else
    match file.header with
    | .error error => .error (.stale ("cannot read BlobRef header: " ++ error))
    | .ok header =>
      if headerMatches header descriptor then .ok ()
      else .error (.stale "BlobRef header/token/size verification failed")

/-- The part of `open` before the table of mappings is locked. -/
def inspect (host : Host) (maximum : Nat) : Except BlobError Unit := do
  checkSize descriptor.size maximum
  if descriptor.version ≠ blobProtocol then
    throw (.invalid ("unsupported BlobRef protocol " ++ toString descriptor.version))
  if descriptor.boot ≠ (← host.bootFingerprint) then throw .differentHost
  if descriptor.ownerPid = 0 ∨ descriptor.fd < 0 then throw (.invalid "invalid BlobRef pid/fd")
  if !host.proc then throw (.unsupported "BlobRef requires a mounted /proc filesystem")
  descriptor.verify (← host.openFd descriptor.ownerPid descriptor.fd)

end BlobDescriptor

end Tinyray.Blob
