import Tidebook.Program.Address

namespace Tidebook.Program

/-- The program's error catalog, followed by the framework and token-program errors its account
contexts and transfers can raise. -/
inductive TidebookError where
  | marketNotActive | marketMustBePaused | marketAlreadyPaused | marketAlreadyActive
  | identicalMints | invalidPriceTickSize | invalidQuantityLotSize | marketHasOpenOrders
  | marketVaultNotEmpty | openOrderCountOverflow | openOrderCountUnderflow
  | invalidCollateralMint | invalidVaultAuthority
  | unauthorizedAdmin | invalidDeployer | unauthorizedSuperAdmin | invalidAdmin
  | adminAlreadyDisabled | adminAlreadyActive | cannotModifySuperAdmin | adminMustBeDisabled
  | adminDisabled
  | invalidOrderId | invalidPrice | invalidQuantity | unauthorizedOrderOwner | orderMarketMismatch
  | orderNotOpen | priceNotOnTick | quantityNotOnLot | orderNotionalOverflow
  | orderNotionalTooSmall | priceLevelMarketMismatch | priceLevelSideMismatch
  | priceLevelPriceMismatch | invalidPriceLevelTail | orderPriceLevelMismatch
  | priceLevelOrderCountOverflow | priceLevelQuantityOverflow | orderIdOverflow
  | invalidPriceLevelNeighbors | bestPriceLevelMismatch | invalidPriceLevelOrdering
  | noncanonicalPriceLevel | invalidOrderNeighbor | brokenOrderQueueLink
  | priceLevelOrderCountUnderflow | priceLevelQuantityUnderflow | invalidPriceLevelRentRecipient
  | invalidPriceLevelEndpoints | invalidPriceLevelAggregate
  | invalidDepositAmount | invalidDepositMint | traderBalanceMarketMismatch
  | traderBalanceOwnerMismatch | freeBalanceOverflow | lockedBalanceOverflow
  | lockedBalanceUnderflow | insufficientDepositFunds | invalidWithdrawalAmount
  | invalidWithdrawalMint | insufficientFreeBalance | invalidWithdrawalDestinationOwner
  | insufficientVaultFunds
  | matchingSameSide | ordersDoNotCross | invalidMakerCollateral | selfTradeNotAllowed
  | makerNotAtBestPrice | makerNotFifoHead
  | feeRateTooHigh | feeCalculationOverflow | marketFeesMarketMismatch
  | marketFeesQuoteMintMismatch | marketFeesNotEmpty | feeAccrualOverflow
  | invalidFeeWithdrawalAmount | insufficientAccruedFees | invalidFeeDestinationMint
  | faucetMustBeClosed
  | invalidPredictionCloseTime | invalidPredictionResolutionTime | invalidPredictionFallback
  | invalidPredictionResolver | invalidPredictionResolutionDelay | invalidPredictionPayout
  | invalidPredictionPriceTick | invalidPredictionRulesUri | invalidPredictionRulesHash
  | predictionTimestampOverflow | predictionPositionMarketMismatch
  | predictionPositionOwnerMismatch | invalidPredictionCollateralMint | invalidPredictionVault
  | predictionDepositAfterResolution | invalidPredictionTokenOwner
  | invalidPredictionContractQuantity | predictionSplitUnavailable | predictionMergeUnavailable
  | insufficientPredictionPositions | predictionAccountingOverflow | predictionBackingUnderflow
  | unauthorizedPredictionAuthority | predictionNotDraft | predictionOpeningClosed
  | predictionCreatorMustResolve | predictionBookMarketMismatch | predictionOrderUnavailable
  | predictionSideNotEmpty | invalidPredictionOrderPrice | predictionOrderWouldCross
  | invalidPredictionOrderId | invalidPredictionPriceLevel | invalidPredictionTail
  | predictionOrderNotOpen | unauthorizedPredictionOrderOwner | invalidPredictionOrderNeighbor
  | invalidPredictionRentRecipient | predictionOrderAccountingMismatch
  | predictionMatchingSameSide | predictionOrdersDoNotCross | predictionSelfTrade
  | predictionMakerNotBest | predictionMakerNotHead
  | predictionResolutionUnavailable | unauthorizedPredictionResolver | invalidPredictionEvidence
  | predictionProposalUnavailable | predictionFallbackUnavailable | predictionNotResolved
  | invalidAssetBalance | sharedMarketKindMismatch | invalidSharedBook | invalidSharedNeighbor
  | unauthorizedSharedOrderOwner | sharedBookNotEmpty | sharedBookMustBeClosed | nothingToRedeem
  | accountNotInitialized | accountAlreadyInUse | constraintSeeds | constraintHasOne
  | constraintTokenMint | constraintTokenOwner
  | tokenOwnerMismatch | tokenMintMismatch | tokenInsufficientFunds | tokenOverflow
  | tokenNonNativeHasBalance
  deriving DecidableEq

abbrev Result (α : Type) := Except TidebookError α

export Library (require okOr)

end Tidebook.Program
