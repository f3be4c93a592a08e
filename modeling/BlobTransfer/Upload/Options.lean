import BlobTransfer.Blob.Properties
import BlobTransfer.Error.Transfer

/-!
How a source is cut into blocks and how many of them are staged at a time.
-/

namespace BlobTransfer

def largestBlock : Nat := 4000 * 1024 * 1024

def mostBlocks : Nat := 50000

structure UploadOptions where
  blockSize : Nat := 1024 * 1024
  maxConcurrency : Nat := 1
  sizeHint : Option Nat := none
  metadata : Metadata := {}
  headers : BlobHeaders := {}
  conditions : AccessConditions := {}
  reportsProgress : Bool := false
  deriving DecidableEq, Repr

namespace UploadOptions

def blocksFor (options : UploadOptions) (size : Nat) : Nat :=
  (size + options.blockSize - 1) / options.blockSize

def validate (options : UploadOptions) : Except TransferError Unit := do
  if options.blockSize = 0 ∨ largestBlock < options.blockSize then
    throw (.invalid (.blockSize options.blockSize largestBlock))
  if options.maxConcurrency = 0 then
    throw (.invalid .concurrency)
  if let some size := options.sizeHint then
    let blocks := options.blocksFor size
    if mostBlocks < blocks then
      throw (.invalid (.blockCount size blocks options.blockSize mostBlocks))

end UploadOptions

end BlobTransfer
