import Mathlib.Data.List.Basic

/-!
# What the driver sees of OpenSC

`card-starcos.c` is a driver: it overrides a fixed set of hooks of OpenSC's generic
ISO 7816 driver and talks to the card only through `sc_transmit_apdu`.  This file
models the part of the library the driver reads and writes: the card handle with its
path cache, serial number and extension slot, the file descriptor, the APDU and the
transport's reply, and the error taxonomy.

## What is a parameter

The driver includes `internal.h`, `asn1.h` and `cardctl.h`, none of which is part of
the source modelled here.  Their macros (`SC_AC_NEVER`, `SC_FILE_TYPE_DF`,
`SC_MAX_SERIALNR`, ...) and the helpers the driver calls (`sc_asn1_find_tag`,
`sc_pkcs1_encode`, the ISO driver's `check_sw`) are therefore not fixed here: they are
the fields of a `Framework`, and every result about the driver holds for every
`Framework`.  Where a result needs something of the real values --- that the
`SC_AC_NEVER` mask shares the `SC_AC_CHV` bit, or that the working-EF type code is the
transparent-structure code --- it says so as a hypothesis.

Two enumerations are only ever compared with members of their own kind, and are
inductive types: the path types `SC_PATH_TYPE_*` and the security operations
`SC_SEC_OPERATION_*`.  The extension slot's `sec_ops` holds one of the latter or `0`,
so it is an `Option`.

## The dictionary

* `sc_card_t`: `ScCard`; `card->cache.current_path`: `ScCard.cache`;
  `card->drv_data`: `ScCard.drvData`, a `StarcosExData`.
* `sc_path_t`: `ScPath`, its `len` the length of `value`.
* `sc_file_t`: `ScFile`; `name`/`namelen`: `ScFile.name`; `acl[op]`: `ScFile.acl`.
* `sc_apdu_t`: `Apdu`; its `lc` is the length of `data` in every command the driver
  builds, so it is not a field of its own.
* the return value of `sc_transmit_apdu` together with `sw1`, `sw2` and the response
  bytes: `Reply`.
* an `int` result that is `SC_SUCCESS`, a byte count or an error: `ScRet`.
-/

namespace StarcosDriver

/-! ## Errors and results -/

/-- The error codes a driver function can return: the driver's own kinds, and any other
code of the library (a transport failure, an entry of the ISO 7816 table). -/
inductive ScError where
  | outOfMemory
  | invalidArguments
  | invalidData
  | internal
  | notSupported
  | notAllowed
  | incorrectParameters
  | fileAlreadyExists
  | fileNotFound
  | pinCodeIncorrect
  | cardCmdFailed
  | other (code : Nat)
  deriving DecidableEq, Repr

/-- The `int` a driver function returns: `SC_SUCCESS` (`ok 0`) or a byte count, or a
negative error code. -/
inductive ScRet where
  | ok (n : Nat)
  | err (e : ScError)
  deriving DecidableEq, Repr

/-- `SC_SUCCESS`, which is also `SC_NO_ERROR`. -/
def scSuccess : ScRet := .ok 0

/-- A negative return value. -/
def ScRet.IsErr : ScRet → Prop
  | .ok _ => False
  | .err _ => True

instance : DecidablePred ScRet.IsErr := fun r =>
  match r with
  | .ok _ => isFalse id
  | .err _ => isTrue trivial

@[simp] theorem ScRet.isErr_ok (n : Nat) : ¬ (ScRet.ok n).IsErr := id

@[simp] theorem ScRet.isErr_err (e : ScError) : (ScRet.err e).IsErr := trivial

/-! ## The framework -/

/-- The values of the OpenSC header macros and the library helpers the driver uses. -/
structure Framework where
  /-- `SC_AC_CHV`: the access method "card holder verification", a bit mask. -/
  acChv : Nat
  /-- `SC_AC_PRO`: the access method "secure messaging". -/
  acPro : Nat
  /-- `SC_AC_NEVER`: the access method "never allowed". -/
  acNever : Nat
  /-- `SC_AC_KEY_REF_NONE`: the key reference of an entry that names no key. -/
  acKeyRefNone : Nat
  /-- `SC_AC_OP_CREATE`, the index of the CREATE entry of a DF's ACL. -/
  acOpCreate : Nat
  /-- `SC_AC_OP_READ`. -/
  acOpRead : Nat
  /-- `SC_AC_OP_WRITE`. -/
  acOpWrite : Nat
  /-- `SC_AC_OP_ERASE`. -/
  acOpErase : Nat
  /-- `SC_FILE_TYPE_DF`. -/
  fileTypeDf : Nat
  /-- `SC_FILE_TYPE_WORKING_EF`. -/
  fileTypeWorkingEf : Nat
  /-- `SC_FILE_EF_UNKNOWN`. -/
  efUnknown : Nat
  /-- `SC_FILE_EF_TRANSPARENT`. -/
  efTransparent : Nat
  /-- `SC_FILE_EF_LINEAR_FIXED`. -/
  efLinearFixed : Nat
  /-- `SC_FILE_EF_CYCLIC`. -/
  efCyclic : Nat
  /-- `SC_ALGORITHM_RSA`. -/
  algorithmRsa : Nat
  /-- `SC_ALGORITHM_RSA_PAD_PKCS1`. -/
  rsaPadPkcs1 : Nat
  /-- `SC_ALGORITHM_RSA_PAD_ISO9796`. -/
  rsaPadIso9796 : Nat
  /-- `SC_ALGORITHM_RSA_HASH_NONE`. -/
  rsaHashNone : Nat
  /-- `SC_ALGORITHM_RSA_HASH_SHA1`. -/
  rsaHashSha1 : Nat
  /-- `SC_ALGORITHM_RSA_HASH_MD5`. -/
  rsaHashMd5 : Nat
  /-- `SC_ALGORITHM_RSA_HASH_RIPEMD160`. -/
  rsaHashRipemd160 : Nat
  /-- `SC_ALGORITHM_RSA_HASHES`, the mask of every hash bit. -/
  rsaHashes : Nat
  /-- `SC_SEC_ENV_ALG_REF_PRESENT`. -/
  secEnvAlgRefPresent : Nat
  /-- `SC_SEC_ENV_KEY_REF_PRESENT`. -/
  secEnvKeyRefPresent : Nat
  /-- `SC_SEC_ENV_KEY_REF_ASYMMETRIC`. -/
  secEnvKeyRefAsymmetric : Nat
  /-- `SC_SEC_ENV_ALG_PRESENT`. -/
  secEnvAlgPresent : Nat
  /-- `SC_MAX_APDU_BUFFER_SIZE`, the size of every response buffer of the driver. -/
  maxApduBufferSize : Nat
  /-- `SC_MAX_SERIALNR`, the size of `card->serialnr.value`. -/
  maxSerialnr : Nat
  /-- `sc_asn1_find_tag(ctx, buf, len, tag, &taglen)`: the value bytes of the first
  object with that tag, if there is one. -/
  asn1FindTag : List UInt8 → Nat → Option (List UInt8)
  /-- `iso_ops->check_sw`, the ISO 7816 translation of a status word. -/
  isoCheckSw : Nat → Nat → ScRet
  /-- `sc_pkcs1_encode(ctx, flags, in, inlen, out, &outlen, modlen)`. -/
  pkcs1Encode : Nat → List UInt8 → Nat → Except ScError (List UInt8)

/-! ## Paths, files and the card handle -/

/-- `SC_PATH_TYPE_FILE_ID`, `_DF_NAME`, `_PATH` and `_PATH_PROT`. -/
inductive PathType where
  | fileId
  | dfName
  | path
  | pathProt
  deriving DecidableEq, Repr

/-- `sc_path_t`: a kind and the bytes of the path. -/
structure ScPath where
  type : PathType
  value : List UInt8
  deriving DecidableEq, Repr

/-- An access-control entry `sc_acl_entry_t`: a method mask and a key reference. -/
structure AclEntry where
  method : Nat
  keyRef : Nat
  deriving DecidableEq, Repr

/-- `sc_file_t`, with the fields the driver reads or writes. -/
structure ScFile where
  id : Nat
  path : ScPath
  type : Nat
  efStructure : Nat
  size : Nat
  recordLength : Nat
  recordCount : Nat
  shareable : Bool
  /-- `name[0 .. namelen)`, the AID. -/
  name : List UInt8
  /-- Whether `magic` is `SC_FILE_MAGIC`. -/
  magic : Bool
  /-- `acl[op]`, absent entries being `none`; an index past the list is absent. -/
  acl : List (Option AclEntry)
  deriving DecidableEq, Repr

/-- `sc_file_new()`: a zeroed descriptor.  The driver sets `magic` itself on every path
that hands a descriptor out. -/
def ScFile.new : ScFile :=
  { id := 0, path := ⟨.fileId, []⟩, type := 0, efStructure := 0, size := 0,
    recordLength := 0, recordCount := 0, shareable := false, name := [], magic := false,
    acl := [] }

/-- `sc_file_get_acl_entry(file, op)`. -/
def ScFile.aclEntry (f : ScFile) (op : Nat) : Option AclEntry :=
  f.acl.getD op none

/-- `SC_SEC_OPERATION_DECIPHER`, `_SIGN` and `_AUTHENTICATE`. -/
inductive SecOperation where
  | decipher
  | sign
  | authenticate
  deriving DecidableEq, Repr

/-- `starcos_ex_data`, the driver's private state: the security operation installed
last (`0` is `none`) and the hash flags for which a DigestInfo must be built. -/
structure StarcosExData where
  secOps : Option SecOperation
  fixDigestInfo : Nat
  deriving DecidableEq, Repr

/-- The extension state `starcos_init` allocates: zeroed. -/
def StarcosExData.zero : StarcosExData := ⟨none, 0⟩

/-- `sc_card_t`, with the fields the driver reads or writes. -/
structure ScCard where
  cla : UInt8
  cacheValid : Bool
  /-- `cache.current_path`. -/
  cache : ScPath
  /-- `serialnr.value[0 .. serialnr.len)`. -/
  serialnr : List UInt8
  maxSendSize : Nat
  maxRecvSize : Nat
  /-- `drv_data`. -/
  drvData : StarcosExData
  deriving DecidableEq, Repr

/-! ## Commands and replies -/

/-- `SC_APDU_CASE_2_SHORT`, `_3_SHORT` and `_4_SHORT`. -/
inductive ApduCase where
  | case2Short
  | case3Short
  | case4Short
  deriving DecidableEq, Repr

/-- `sc_apdu_t` as the driver fills it in. -/
structure Apdu where
  cse : ApduCase
  cla : UInt8
  ins : UInt8
  p1 : UInt8
  p2 : UInt8
  data : List UInt8
  le : Nat
  /-- The size of the response buffer. -/
  resplen : Nat
  sensitive : Bool
  deriving DecidableEq, Repr

/-- `sc_format_apdu(card, &apdu, cse, ins, p1, p2)`: a zeroed APDU with the card's class
byte. -/
def formatApdu (card : ScCard) (cse : ApduCase) (ins p1 p2 : UInt8) : Apdu :=
  { cse, cla := card.cla, ins, p1, p2, data := [], le := 0, resplen := 0,
    sensitive := false }

/-- What one call of `sc_transmit_apdu` hands back: a transport error, or the card's
status word with the response bytes. -/
inductive Reply where
  | error (e : ScError)
  | answer (sw1 sw2 : Nat) (resp : List UInt8)
  deriving DecidableEq, Repr

/-- A status word the driver takes as success: `90 00`. -/
def IsOk (sw1 sw2 : Nat) : Prop := sw1 = 0x90 ∧ sw2 = 0x00

instance (sw1 sw2 : Nat) : Decidable (IsOk sw1 sw2) :=
  inferInstanceAs (Decidable (_ ∧ _))

/-! ## OpenSC's values -/

/-- The objects of a BER string with one-byte tags and lengths, searched for `tag`. -/
def findTlv : List UInt8 → Nat → Option (List UInt8)
  | t :: l :: rest, tag =>
    if t.toNat = tag then some (rest.take l.toNat) else findTlv (rest.drop l.toNat) tag
  | _, _ => none
termination_by buf => buf.length
decreasing_by simp only [List.length_drop, List.length_cons]; omega

/-- The values OpenSC's headers give the macros, with stand-ins for the helpers: a BER
search over one-byte tags and lengths, an ISO translation that refuses every status word
not starting with `90`, and a PKCS#1 encoder that returns its input.  The runs on fixed
inputs in the other modules are taken in this instance. -/
def Framework.opensc : Framework where
  acChv := 0x01
  acPro := 0x04
  acNever := 0xFFFFFFFF
  acKeyRefNone := 0xFFFFFFFF
  acOpCreate := 3
  acOpRead := 0
  acOpWrite := 2
  acOpErase := 3
  fileTypeDf := 0x04
  fileTypeWorkingEf := 0x01
  efUnknown := 0x00
  efTransparent := 0x01
  efLinearFixed := 0x02
  efCyclic := 0x06
  algorithmRsa := 0
  rsaPadPkcs1 := 0x02
  rsaPadIso9796 := 0x08
  rsaHashNone := 0x10
  rsaHashSha1 := 0x20
  rsaHashMd5 := 0x40
  rsaHashRipemd160 := 0x100
  rsaHashes := 0x1F0
  secEnvAlgRefPresent := 0x01
  secEnvKeyRefPresent := 0x04
  secEnvKeyRefAsymmetric := 0x08
  secEnvAlgPresent := 0x10
  maxApduBufferSize := 258
  maxSerialnr := 32
  asn1FindTag := findTlv
  isoCheckSw := fun sw1 sw2 => if sw1 = 0x90 then .ok 0 else .err (.other (sw1 * 256 + sw2))
  pkcs1Encode := fun _ data _ => .ok data

end StarcosDriver
